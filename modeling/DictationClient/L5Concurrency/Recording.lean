import DictationClient.L1Encoding.Ogg
import DictationClient.L1Encoding.RequestBytes
import DictationClient.L3Protocol.Declared
import DictationClient.L5Concurrency.MicCall
import DictationClient.L5Concurrency.NetworkedCall
import DictationClient.L5Concurrency.PyCall
import Mathlib.Data.List.Infix

/-!
# From the recording to the server

All the layers of a streaming call: the file, the frames, the threads, the network,
and the bytes of each message, which the server parses one by one.

* `heard`: what the server reads from the messages that have arrived.
* `file_heard`, `ogg_heard`: the C++ client with a WAVE or an Ogg file.
* `stream_heard`, `mic_heard`: the Python client with an `AudioStream` or the
  microphone.

The first message is below the limit of 2 GiB, and its strings are UTF-8 as those of
`Api` are. From a command line the C++ client also takes strings that are not; the
server cannot parse such a message (`Proto.parse_serialize_merges`).
-/
namespace DictationClient.L5.Recording

open DictationClient.Api DictationClient.L1
open L1.Wave (Files WavHeader WavData readWaveFile declaredSize)
open L2.StreamingRequest (DictationSessionConfig Builds configRequest frameSize payloads)
open L3.Declared (streamingSession)
open Link (Item)

/-- What the server reads. -/
def heard (w : WireFormat) (items : List (Item StreamingRecognizeRequest)) :
    List (Option Proto.StreamingRecognizeRequest) :=
  (items.filterMap Item.message?).map fun m =>
    Proto.StreamingRecognizeRequest.internalParse w {} (Proto.StreamingRecognizeRequest.wire w m)

def audioOf : Option Proto.StreamingRecognizeRequest → Bytes
  | some { streamingRequest := .audioContent data, .. } => data
  | _ => []

/-- The audio in what the server reads. -/
def audioHeard (w : WireFormat) (items : List (Item StreamingRecognizeRequest)) : Bytes :=
  (heard w items).flatMap audioOf

section Heard
variable {w : WireFormat} {c : StreamingRecognitionConfig} {frames : List Bytes} {n : Nat}
  {items : List (Item StreamingRecognizeRequest)}

theorem length_wire_audioContent (w : WireFormat) (data : Bytes) :
    (Proto.StreamingRecognizeRequest.wire w (.audioContent data)).length ≤ data.length + 11 := by
  have := w.varintSize_le (UInt64.ofNat data.length)
  rw [Proto.StreamingRecognizeRequest.wire, Proto.StreamingRecognizeRequest.length_serialize]
  simp only [Proto.StreamingRecognizeRequest.ofApi, Proto.StreamingRecognizeRequest.byteSizeLong,
    WireFormat.delimitedSize, WireFormat.computeUnknownFieldsSize_nil]
  omega

variable (hc : (Proto.StreamingRecognizeRequest.wire w (.streamingConfig c)).length < sizeLimit)
  (hframes : ∀ frame ∈ frames, frame.length ≤ n) (hn : n + 11 < sizeLimit)
  (hpre : items.filterMap Item.message? <+: .streamingConfig c :: frames.map .audioContent)

include hc hframes hn hpre

/-- Every message that has arrived is read as it was built. -/
theorem heard_eq : heard w items =
    (items.filterMap Item.message?).map fun m => some (Proto.StreamingRecognizeRequest.ofApi m) := by
  refine List.map_congr_left fun m hm => Proto.StreamingRecognizeRequest.parse_wire ?_
  rcases List.mem_cons.mp (hpre.subset hm) with rfl | hm
  · exact hc
  · obtain ⟨frame, hframe, rfl⟩ := List.mem_map.mp hm
    have := length_wire_audioContent w frame
    have := hframes frame hframe
    omega

theorem isSome_of_heard : ∀ r ∈ heard w items, r.isSome := by
  rw [heard_eq hc hframes hn hpre]
  intro r hr
  obtain ⟨m, -, rfl⟩ := List.mem_map.mp hr
  rfl

omit hc hframes hn hpre in
theorem flatMap_audioOf (c : StreamingRecognitionConfig) (frames : List Bytes) :
    ((StreamingRecognizeRequest.streamingConfig c :: frames.map .audioContent).map fun m =>
      some (Proto.StreamingRecognizeRequest.ofApi m)).flatMap audioOf = frames.flatten := by
  rw [List.map_cons, List.flatMap_cons, List.map_map, List.flatMap_map]
  exact List.flatMap_id

omit hpre in
/-- All the messages have arrived. -/
theorem heard_all (hall : items.filterMap Item.message? = .streamingConfig c :: frames.map .audioContent) :
    (heard w items).head? = some (some (.ofApi (.streamingConfig c))) ∧
      audioHeard w items = frames.flatten := by
  rw [audioHeard, heard_eq hc hframes hn (hall ▸ List.prefix_rfl), hall, flatMap_audioOf]
  exact ⟨rfl, rfl⟩

theorem audioHeard_le : audioHeard w items <+: frames.flatten := by
  rw [audioHeard, heard_eq hc hframes hn hpre, ← flatMap_audioOf c frames]
  exact (hpre.map _).flatMap _

end Heard

/-! ## The C++ client -/

section Cpp
variable {F : Type} {w : WireFormat} {wav : WavData} {config : DictationSessionConfig}
  {requests : List StreamingRecognizeRequest}
  (hbuild : Builds (streamingSession config wav) wav.audioBytes (.ok requests))
  (hopening : (Proto.StreamingRecognizeRequest.wire w
    (configRequest (streamingSession config wav))).length < sizeLimit)
  {ls : List (StreamingRecognize.NetLbl F)} {s : StreamingRecognize.Net F}
  (hr : (StreamingRecognize.net F requests).Run StreamingRecognize.netStart ls s)

/-- No write has failed and no response has asked to stop. -/
def Steady (s : StreamingRecognize.Net F) : Prop :=
  (∀ r, .read r ∈ s.client.log → StreamingRecognize.stops r = false) ∧
    ∀ m ok, .write m ok ∈ s.client.log → ok = true

include hbuild hopening hr

/-- The audio a reader has returned. -/
theorem audioBytes_heard (hshort : wav.audioBytes.length + 1 < 2 ^ 31) :
    (∀ r ∈ heard w s.received, r.isSome) ∧
    audioHeard w s.received <+: wav.audioBytes ∧
    (Steady s → .halfClose ∈ s.received →
      (heard w s.received).head? = some (some (.ofApi (configRequest (streamingSession config wav)))) ∧
      audioHeard w s.received = wav.audioBytes) := by
  obtain ⟨frames, rfl, hle, hcount, hflat⟩ := hbuild.frames (by omega)
  have hlen : (configRequest (streamingSession config wav) ::
      frames.map StreamingRecognizeRequest.audioContent).length < 2 ^ 31 := by
    rw [List.length_cons, List.length_map]; omega
  have hpre := StreamingRecognize.received_messages hlen hr
  have hn : 4294967 + 11 < sizeLimit := by decide
  rw [← hflat]
  refine ⟨isSome_of_heard hopening hle hn hpre, audioHeard_le hopening hle hn hpre,
    fun ⟨hread, hwrite⟩ hclose => ?_⟩
  have hall := StreamingRecognize.received_eq hlen hr hread hwrite hclose
  exact heard_all hopening hle hn (by rw [hall, Item.filterMap_message?]; rfl)

/-- **What the server hears of a WAVE file.** Whatever the server and the network do,
every message that arrives can be parsed, and the audio in them is a beginning of the
file's `data`. If nothing has failed and nothing has asked to stop, a server that has
seen the half-close has all of it, behind the configuration. -/
theorem file_heard {files : Files} {uninit : WavHeader} {audioPath : String} {content : Bytes}
    (hfile : files audioPath = some content) (hsize : 44 + declaredSize content ≤ content.length)
    (hshort : declaredSize content + 1 < 2 ^ 31) (hread : readWaveFile files uninit audioPath = .ok wav) :
    (∀ r ∈ heard w s.received, r.isSome) ∧
    audioHeard w s.received <+: (content.drop 44).take (declaredSize content) ∧
    (Steady s → .halfClose ∈ s.received →
      (heard w s.received).head? = some (some (.ofApi (configRequest (streamingSession config wav)))) ∧
      audioHeard w s.received = (content.drop 44).take (declaredSize content)) := by
  have haudio : wav.audioBytes = (content.drop 44).take (declaredSize content) :=
    L1.Wave.audioBytes_of_readWaveFile hfile hsize hread
  have hlength : wav.audioBytes.length ≤ declaredSize content := by
    rw [haudio]; exact List.length_take_le _ _
  rw [← haudio]
  exact audioBytes_heard hbuild hopening hr (by omega)

/-- **What the server hears of an Ogg file**: in the same way, what the library has
decoded of it. -/
theorem ogg_heard {σ : Type} {lib : L1.Ogg.Vorbisfile σ} {audioPath : String} {f : L1.Ogg.OggFile}
    (hpresents : L1.Ogg.Presents lib audioPath f) (hread : L1.Ogg.ReadsOgg lib audioPath (.ok wav))
    (hshort : f.blocks.flatten.length + 1 < 2 ^ 31) :
    (∀ r ∈ heard w s.received, r.isSome) ∧
    audioHeard w s.received <+: f.blocks.flatten ∧
    (Steady s → .halfClose ∈ s.received →
      (heard w s.received).head? = some (some (.ofApi (configRequest (streamingSession config wav)))) ∧
      audioHeard w s.received = f.blocks.flatten) := by
  have haudio : wav.audioBytes = f.blocks.flatten := L1.Ogg.audioBytes_of_readsOgg hpresents hread
  rw [← haudio] at hshort ⊢
  exact audioBytes_heard hbuild hopening hr hshort

end Cpp

/-- A header that gives a byte rate of 50, so frames of one byte. -/
def slowHeader : WavHeader := { L1.Wave.createWaveHeader 8000 [1, 2] with bytesPerSec := 50 }

def slowFile : Bytes := L1.Wave.headerCodec.encode slowHeader ++ [1, 2]

theorem file_heard_at :
    (∀ r ∈ heard .standard StreamingRecognize.answered.received, r.isSome) ∧
    audioHeard .standard StreamingRecognize.answered.received <+:
      (slowFile.drop 44).take (declaredSize slowFile) ∧
    (heard .standard StreamingRecognize.answered.received).head? =
      some (some (.ofApi (configRequest (streamingSession {} ⟨slowHeader, [1, 2]⟩)))) ∧
    audioHeard .standard StreamingRecognize.answered.received =
      (slowFile.drop 44).take (declaredSize slowFile) := by
  have hread : readWaveFile (fun _ => some slowFile) slowHeader "a.wav" = .ok ⟨slowHeader, [1, 2]⟩ := rfl
  have hbuild : Builds (streamingSession {} ⟨slowHeader, [1, 2]⟩) [1, 2]
    (.ok StreamingRecognize.twoFrames) :=
    ⟨4, rfl⟩
  obtain ⟨hsome, hpre, hall⟩ := file_heard (w := .standard) hbuild (by decide)
    StreamingRecognize.answered_run rfl (by decide) (by decide) hread
  exact ⟨hsome, hpre, hall StreamingRecognize.steady_answered StreamingRecognize.halfClosed_answered⟩

/-- What the decoder gives for `chained`. -/
def decoded : WavData := ⟨L1.Wave.createWaveHeader 8000 [1, 2, 3, 4], [1, 2, 3, 4]⟩

def decodedRequests : List StreamingRecognizeRequest :=
  [configRequest (streamingSession {} decoded), .audioContent [1, 2, 3, 4]]

/-- The writer sends the one frame and half-closes, and both arrive. -/
def decodedSteps : List (StreamingRecognize.NetLbl Nat) :=
  [.client (.reader true), .client (.reader true)] ++ List.replicate 5 (.client (.writer true)) ++
    List.replicate 3 .arrive

theorem decoded_run : ∃ s : StreamingRecognize.Net Nat,
    (StreamingRecognize.net Nat decodedRequests).Run StreamingRecognize.netStart decodedSteps s ∧
      s.client.log = decodedRequests.map (.write · true) ++ [.store .writer, .writesDone .writer] ∧
      s.received = decodedRequests.map .message ++ [.halfClose] :=
  ⟨_, LTS.run_of_exec rfl, rfl, rfl⟩

theorem ogg_heard_at : ∃ s : StreamingRecognize.Net Nat,
    (∀ r ∈ heard .standard s.received, r.isSome) ∧
    audioHeard .standard s.received <+: L1.Ogg.chained.blocks.flatten ∧
    (heard .standard s.received).head? =
      some (some (.ofApi (configRequest (streamingSession {} decoded)))) ∧
    audioHeard .standard s.received = L1.Ogg.chained.blocks.flatten := by
  have hpresents := L1.Ogg.presents_presenting (f := L1.Ogg.chained) rfl "a.ogg"
  have hread : L1.Ogg.ReadsOgg (L1.Ogg.presenting L1.Ogg.chained) "a.ogg" (.ok decoded) :=
    L1.Ogg.readsOgg_of_presents hpresents
  have hbuild : Builds (streamingSession {} decoded) decoded.audioBytes (.ok decodedRequests) := ⟨3, rfl⟩
  obtain ⟨s, hr, hlog, hreceived⟩ := decoded_run
  have hsteady : Steady s := by
    rw [Steady, hlog]
    constructor <;> simp [decodedRequests]
  obtain ⟨hsome, hpre, hall⟩ := ogg_heard (w := .standard) hbuild (by decide) hr hpresents hread (by decide)
  exact ⟨s, hsome, hpre, hall hsteady (by rw [hreceived]; simp)⟩

/-! ## The Python client -/

/-- **What the server hears of an `AudioStream`**: parts of the audio in their order,
each at most once. If no `close()` has fallen between the test of the loop condition and
the store of the index, it is a beginning of the audio; if there was no `close()`, a
server that has seen the half-close has all of it, behind the configuration. -/
theorem stream_heard {F : Type} [One F] [LT F] [DecidableLT F] (w : WireFormat) {st : L2.AudioStream}
    {delay : Int} {settings : L3.PyConfig.DictationSettings} {c : StreamingRecognitionConfig}
    (hcfg : L3.PyConfig.buildConfigurationRequest st.frameRate settings = .ok (.streamingConfig c))
    (hd : 0 ≤ delay) (hs : 0 < st.frameSamplesSize) (hn : st.frameSamplesSize.toNat + 11 < sizeLimit)
    (hopening : (Proto.StreamingRecognizeRequest.wire w (.streamingConfig c)).length < sizeLimit)
    {ls : List (PyCall.NetLbl F)} {s : PyCall.Net F}
    (hr : (PyCall.net F st delay settings).Run (PyCall.netStart st delay settings) ls s) :
    (∀ r ∈ heard w s.received, r.isSome) ∧
    (audioHeard w s.received).Sublist st.audio ∧
    (s.client.raced = false → audioHeard w s.received <+: st.audio) ∧
    (s.client.reader.closes = 0 → .halfClose ∈ s.received →
      (heard w s.received).head? = some (some (.ofApi (.streamingConfig c))) ∧
      audioHeard w s.received = st.audio) := by
  obtain ⟨sent, hi⟩ := PyCall.drawn_of_run hcfg hd hs hr
  have hsize : 0 < st.frameSamplesSize.toNat := by omega
  have hflat : (PyCall.frames st).flatten = st.audio := flatten_chunks hsize st.audio
  have hle : ∀ frame ∈ sent, frame.length ≤ st.frameSamplesSize.toNat :=
    hi.framed.length_le (framed_chunks hsize st.audio).le
  have hpre := PyCall.received_messages hi hr
  have hheard := audioHeard_le hopening hle hn hpre
  refine ⟨isSome_of_heard hopening hle hn hpre, ?_, fun hraced => ?_, fun hopen hclose => ?_⟩
  · exact hheard.sublist.trans (hflat ▸ hi.framed.sublist)
  · rw [hi.framed.eq hraced] at hheard
    exact hheard.trans (hflat ▸ List.IsPrefix.flatten (List.take_prefix _ _))
  · obtain ⟨hall, heq⟩ := PyCall.received_of_halfClose hi hr hclose
    rw [← hflat, ← heq hopen]
    exact heard_all hopening hle hn (by rw [hall, Item.filterMap_message?])

/-- All three frames of one call; in the other, the second frame is lost in a `close()`. -/
theorem stream_heard_at :
    ((∀ r ∈ heard .standard PyCall.answered.received, r.isSome) ∧
      audioHeard .standard PyCall.answered.received <+: [1, 2, 3, 4, 5] ∧
      (heard .standard PyCall.answered.received).head? =
        some (some (.ofApi (.streamingConfig LockedIterator.shortConfig))) ∧
      audioHeard .standard PyCall.answered.received = [1, 2, 3, 4, 5]) ∧
    (∀ r ∈ heard .standard PyCall.overtaken.received, r.isSome) ∧
    (audioHeard .standard PyCall.overtaken.received).Sublist [1, 2, 3, 4, 5] := by
  have hcfg : L3.PyConfig.buildConfigurationRequest L3.RequestIterator.shortStream.frameRate {} =
    .ok (.streamingConfig LockedIterator.shortConfig) := rfl
  obtain ⟨hsome, -, hpre, hall⟩ := stream_heard .standard hcfg (by decide) (by decide) (by decide)
    (by decide +kernel) PyCall.answered_run
  obtain ⟨hsome', hsub, -, -⟩ := stream_heard .standard hcfg (by decide) (by decide) (by decide)
    (by decide +kernel) PyCall.overtaken_run
  exact ⟨⟨hsome, hpre rfl, hall rfl (by simp [PyCall.answered])⟩, hsome', hsub⟩

/-- **What the server hears of the microphone**: a beginning of what was put into the
queue in front of the sentinel; with the half-close, all that the generator has yielded. -/
theorem mic_heard {F : Type} [One F] [LT F] [DecidableLT F] (w : WireFormat) {rate : Int}
    {settings : L3.PyConfig.DictationSettings} {c : StreamingRecognitionConfig}
    (hcfg : L3.PyConfig.buildConfigurationRequest rate settings = .ok (.streamingConfig c))
    (hopening : (Proto.StreamingRecognizeRequest.wire w (.streamingConfig c)).length < sizeLimit)
    {ls : List (MicCall.NetLbl F)} {s : MicCall.Net F}
    (hr : (MicCall.net F rate settings).Run MicCall.netStart ls s)
    (hn : ∀ data ∈ MicStream.yielded s.client.mic.log, data.length + 11 < sizeLimit) :
    (∀ r ∈ heard w s.received, r.isSome) ∧
    audioHeard w s.received <+: (MicStream.recorded s.client.mic.log).flatten ∧
    (.halfClose ∈ s.received →
      (heard w s.received).head? = some (some (.ofApi (.streamingConfig c))) ∧
      audioHeard w s.received = (MicStream.yielded s.client.mic.log).flatten) := by
  have hle : ∀ data ∈ MicStream.yielded s.client.mic.log, data.length ≤ sizeLimit - 12 := fun data hd => by
    have := hn data hd
    omega
  have hlimit : sizeLimit - 12 + 11 < sizeLimit := by decide
  have hpre := MicCall.received_messages hcfg hr
  refine ⟨isSome_of_heard hopening hle hlimit hpre,
    (audioHeard_le hopening hle hlimit hpre).trans (MicCall.recorded_of_run hcfg hr).1, fun hclose => ?_⟩
  have hall := MicCall.received_of_halfClose hcfg hr hclose
  exact heard_all hopening hle hlimit (by rw [hall, Item.filterMap_message?])

/-- Two chunks in one frame, two in the next one. -/
theorem mic_heard_at :
    (∀ r ∈ heard .standard MicCall.goneHome.received, r.isSome) ∧
    audioHeard .standard MicCall.goneHome.received <+:
      (MicStream.recorded MicCall.goneHome.client.mic.log).flatten ∧
    (heard .standard MicCall.goneHome.received).head? =
      some (some (.ofApi (.streamingConfig MicCall.micConfig))) ∧
    audioHeard .standard MicCall.goneHome.received = [1, 2, 3, 4, 5, 6, 7, 8] := by
  have hcfg : L3.PyConfig.buildConfigurationRequest 16000 {} =
      .ok (.streamingConfig MicCall.micConfig) := rfl
  obtain ⟨hsome, hpre, hall⟩ := mic_heard .standard hcfg (by decide +kernel)
    (MicCall.untilClosed_run.append MicCall.goodbye_run) (by decide)
  exact ⟨hsome, hpre, hall (by simp [MicCall.goneHome])⟩

end DictationClient.L5.Recording
