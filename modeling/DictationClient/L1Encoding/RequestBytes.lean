import DictationClient.Api
import DictationClient.L1Encoding.RequestMessages

/-!
# What a server reads

* `parse_serialize_merges`: parsing a request is `MergeFrom`.
* `parse_parts`: several requests behind each other, with fields of a later version
  of the messages between them, which are kept.
* `ofApi`: the messages the clients build, of strings that are UTF-8. `requests_read`:
  the server has what was built, and nothing else that is built looks the same to it.
-/
namespace DictationClient.L1.Proto

open WireFormat

/-- **Parsing what was serialized is `MergeFrom`**, or fails if a `string` is not
UTF-8, which the serializer only reports. `ByteSizeLong` is the number of bytes. -/
theorem parse_serialize_merges {w : WireFormat} {m : StreamingRecognizeRequest} {m' : RecognizeRequest}
    (hm : m.WellFormed w) (hm' : m'.WellFormed w) (hs : m.byteSizeLong w < sizeLimit)
    (hs' : m'.byteSizeLong w < sizeLimit) :
    ((m.internalSerialize w).length = m.byteSizeLong w ∧
      ∀ this : StreamingRecognizeRequest, this.internalParse w (m.internalSerialize w) =
        if m.validUTF8 w then some (this.mergeFrom m) else none) ∧
    ((m'.internalSerialize w).length = m'.byteSizeLong w ∧
      ∀ this : RecognizeRequest, this.internalParse w (m'.internalSerialize w) =
        if m'.validUTF8 w then some (this.mergeFrom m') else none) := by
  rw [← m.length_serialize] at hs
  rw [← m'.length_serialize] at hs'
  exact ⟨⟨m.length_serialize, fun this => (this.reads_serialize hm).parse hs⟩,
    m'.length_serialize, fun this => (this.reads_serialize hm').parse hs'⟩

def configAndAudio : RecognizeRequest where
  config := some { encoding := 1, sampleRateHertz := 16000, speechContexts := [{ phrases := [[]] }] }
  audio := some { audioSource := .content [1, 2] }

/-- Of a version of the message with a third field, a number. -/
def twoBytes : StreamingRecognizeRequest where
  streamingRequest := .audioContent [1, 2]
  unknownFields := [⟨24, [5]⟩]

theorem wellFormed_configAndAudio : configAndAudio.WellFormed standard where
  unknown := foreign_nil _
  config c hc := by
    cases hc
    refine ⟨foreign_nil _, ?_, by simp⟩
    rw [List.forall_mem_singleton]
    exact ⟨foreign_nil _⟩
  audio a ha := by cases ha; exact ⟨foreign_nil _⟩

theorem wellFormed_twoBytes : twoBytes.WellFormed standard where
  unknown := by
    simp only [Foreign, twoBytes, List.forall_mem_singleton]
    exact ⟨by decide, by decide, by decide, fun _ => rfl⟩
  streamingConfig c hc := by cases hc

theorem parse_serialize_merges_at :
    ((twoBytes.internalSerialize standard).length = twoBytes.byteSizeLong standard ∧
      ∀ this : StreamingRecognizeRequest,
        this.internalParse standard (twoBytes.internalSerialize standard) =
        if twoBytes.validUTF8 standard then some (this.mergeFrom twoBytes) else none) ∧
    ((configAndAudio.internalSerialize standard).length = configAndAudio.byteSizeLong standard ∧
      ∀ this : RecognizeRequest, this.internalParse standard (configAndAudio.internalSerialize standard) =
        if configAndAudio.validUTF8 standard then some (this.mergeFrom configAndAudio) else none) :=
  parse_serialize_merges wellFormed_twoBytes wellFormed_configAndAudio (by decide) (by decide)

/-! ## Unknown fields -/

/-- A serialized request, or a field the message does not have, of whose value the
runtime writes `kept`. -/
inductive Part where
  | request (m : StreamingRecognizeRequest)
  | field (tag : UInt32) (payload kept : Bytes)

namespace Part
variable (w : WireFormat)

def bytes : Part → Bytes
  | request m => m.internalSerialize w
  | field tag payload _ => w.writeTag tag ++ payload

def validUTF8 : Part → Bool
  | request m => m.validUTF8 w
  | field _ _ _ => true

def mergeInto (this : StreamingRecognizeRequest) : Part → StreamingRecognizeRequest
  | request m => this.mergeFrom m
  | field tag _ kept => this.addUnknown ⟨tag, kept⟩

/-- The field has another number or another wire type than `streaming_config` and
`audio_content`, and the runtime can read it. -/
def Readable : Part → Prop
  | request m => m.WellFormed w
  | field tag payload kept => tag ∉ StreamingRecognizeRequest.tags ∧ tag ≠ 0 ∧ tag &&& 7 ≠ 4 ∧
      ∀ rest, w.unknownFieldParse tag (payload ++ rest) = some (kept, rest)

end Part

variable {w : WireFormat}

theorem Part.reads {p : Part} (hp : p.Readable w) (this : StreamingRecognizeRequest) :
    w.Reads (StreamingRecognizeRequest.parseField w) this (p.bytes w) (p.validUTF8 w)
    (p.mergeInto this) := by
  cases p with
  | request m => exact this.reads_serialize hp
  | field tag payload kept =>
    obtain ⟨ht, h0, hend, hkept⟩ := hp
    exact .unknown this.addUnknown ⟨h0, hend⟩ (this.parseField_foreign ht) hkept

/-- **Requests behind each other, with fields of another version between them.** Those
are kept, in their order, and written again. -/
theorem parse_parts (parts : List Part) (hread : ∀ p ∈ parts, p.Readable w)
    (hs : (parts.flatMap (Part.bytes w)).length < sizeLimit) (this : StreamingRecognizeRequest) :
    this.internalParse w (parts.flatMap (Part.bytes w)) =
      if parts.all (Part.validUTF8 w) then some (parts.foldl Part.mergeInto this) else none :=
  (Reads.flatMap (fun this p hp => Part.reads (hread p hp) this) this).parse hs

/-- A third field, a number, between two requests; it comes in two bytes, and one would
do. -/
def withNumber : List Part :=
  [.request { streamingRequest := .audioContent [1] }, .field 24 [0x85, 0] [5],
    .request { streamingRequest := .audioContent [2] }]

theorem unknownValue_number (rest : Bytes) : unknownValue 24 ([0x85, 0] ++ rest) = some ([5], rest) := by
  have hread : readVarint 9 ([0x85, 0] ++ rest) = some (5, rest) := by simp [readVarint]
  rw [unknownValue, show (24 &&& 7 : UInt32).toNat = 0 from rfl, hread]
  rfl

theorem readable_withNumber : ∀ p ∈ withNumber, p.Readable standard := by
  rw [withNumber, List.forall_mem_cons, List.forall_mem_cons, List.forall_mem_singleton]
  exact ⟨⟨foreign_nil _, by simp⟩, ⟨by decide, by decide, by decide, unknownValue_number⟩,
    ⟨foreign_nil _, by simp⟩⟩

theorem parse_parts_at : StreamingRecognizeRequest.internalParse standard {}
    (withNumber.flatMap (Part.bytes standard)) =
      some { streamingRequest := .audioContent [2], unknownFields := [⟨24, [5]⟩] } :=
  parse_parts withNumber readable_withNumber (by decide) {}

/-! ## The messages the clients build -/

/-- mirrors cpp/libdictation-client/dictation_asr.pb.h:135-144 -/
def AudioEncoding.number : Api.AudioEncoding → Int32
  | .encodingUnspecified => 0
  | .linear16 => 1
  | .flac => 2
  | .mulaw => 3
  | .amr => 4
  | .amrWb => 5
  | .oggOpus => 6
  | .speexWithHeaderByte => 7
  | .mp3 => 8

theorem AudioEncoding.number_injective : Function.Injective AudioEncoding.number := by
  intro e e' h
  cases e <;> cases e' <;> first | rfl | exact absurd h (by decide)

namespace ConfigField

def ofApi (f : Api.ConfigField) : ConfigField where
  key := utf8 f.key
  value := utf8 f.value

theorem ofApi_injective : Function.Injective ofApi := by
  rintro ⟨key, value⟩ ⟨key', value'⟩ h
  simp only [ofApi, mk.injEq, utf8_injective.eq_iff, and_true] at h
  rw [h.1, h.2]

theorem validUTF8_ofApi (f : Api.ConfigField) : (ofApi f).validUTF8 w = true := by
  rw [validUTF8, Bool.and_eq_true]
  exact ⟨w.verifyUTF8_utf8 _, w.verifyUTF8_utf8 _⟩

theorem wellFormed_ofApi (f : Api.ConfigField) : (ofApi f).WellFormed w := ⟨foreign_nil _⟩

end ConfigField

namespace SpeechContext

def ofApi (c : Api.SpeechContext) : SpeechContext where
  phrases := c.phrases.map utf8

theorem ofApi_injective : Function.Injective ofApi := by
  rintro ⟨phrases⟩ ⟨phrases'⟩ h
  simp only [ofApi, mk.injEq, and_true] at h
  rw [utf8_injective.list_map h]

theorem validUTF8_ofApi (c : Api.SpeechContext) : (ofApi c).validUTF8 w = true := by
  simp [validUTF8, ofApi, w.verifyUTF8_utf8]

theorem wellFormed_ofApi (c : Api.SpeechContext) : (ofApi c).WellFormed w := ⟨foreign_nil _⟩

end SpeechContext

namespace RecognitionConfig

def ofApi (c : Api.RecognitionConfig) : RecognitionConfig where
  encoding := AudioEncoding.number c.encoding
  sampleRateHertz := c.sampleRateHertz
  languageCode := utf8 c.languageCode
  maxAlternatives := c.maxAlternatives
  speechContexts := c.speechContexts.map .ofApi
  enableWordTimeOffsets := c.enableWordTimeOffsets
  configFields := c.configFields.map .ofApi

theorem ofApi_injective : Function.Injective ofApi := by
  intro c c' h
  simp only [ofApi, mk.injEq, true_and, and_true] at h
  obtain ⟨hencoding, hrate, hlanguage, halternatives, hcontexts, htimes, hfields⟩ := h
  cases c
  cases c'
  simp only [Api.RecognitionConfig.mk.injEq]
  exact ⟨AudioEncoding.number_injective hencoding, hrate, utf8_injective hlanguage, halternatives,
    SpeechContext.ofApi_injective.list_map hcontexts, htimes, ConfigField.ofApi_injective.list_map hfields⟩

theorem validUTF8_ofApi (c : Api.RecognitionConfig) : (ofApi c).validUTF8 w = true := by
  simp [validUTF8, ofApi, w.verifyUTF8_utf8, w.verifyUTF8_nil, SpeechContext.validUTF8_ofApi,
    ConfigField.validUTF8_ofApi]

theorem wellFormed_ofApi (c : Api.RecognitionConfig) : (ofApi c).WellFormed w :=
  ⟨foreign_nil _, List.forall_mem_map.mpr fun c _ => SpeechContext.wellFormed_ofApi c,
    List.forall_mem_map.mpr fun f _ => ConfigField.wellFormed_ofApi f⟩

end RecognitionConfig

namespace StreamingRecognizeRequest

def ofApi : Api.StreamingRecognizeRequest → StreamingRecognizeRequest
  | .streamingConfig c =>
    { streamingRequest := .streamingConfig
        { config := some (.ofApi c.config)
          singleUtterance := c.singleUtterance
          interimResults := c.interimResults } }
  | .audioContent data => { streamingRequest := .audioContent data }

theorem ofApi_injective : Function.Injective ofApi := by
  intro m m' h
  cases m with
  | streamingConfig c =>
    cases m' with
    | streamingConfig c' =>
      simp only [ofApi, mk.injEq, StreamingRequest.streamingConfig.injEq,
        StreamingRecognitionConfig.mk.injEq,
        Option.some.injEq, and_true] at h
      cases c
      cases c'
      simp only [Api.StreamingRecognizeRequest.streamingConfig.injEq,
        Api.StreamingRecognitionConfig.mk.injEq]
      exact ⟨RecognitionConfig.ofApi_injective h.1, h.2⟩
    | audioContent data' => cases h
  | audioContent data =>
    cases m' with
    | streamingConfig c' => cases h
    | audioContent data' => cases h; rfl

theorem validUTF8_ofApi (m : Api.StreamingRecognizeRequest) : (ofApi m).validUTF8 w = true := by
  cases m with
  | streamingConfig c => exact RecognitionConfig.validUTF8_ofApi c.config
  | audioContent data => rfl

theorem wellFormed_ofApi (m : Api.StreamingRecognizeRequest) : (ofApi m).WellFormed w := by
  cases m with
  | streamingConfig c =>
    refine ⟨foreign_nil _, fun c' hc' => ?_⟩
    cases hc'
    exact ⟨foreign_nil _, fun c' hc' => by cases hc'; exact RecognitionConfig.wellFormed_ofApi c.config⟩
  | audioContent data => exact ⟨foreign_nil _, fun c hc => by cases hc⟩

/-- A request that is parsed into a new message. -/
theorem mergeFrom_new (m : StreamingRecognizeRequest) : mergeFrom {} m = m := by
  obtain ⟨streamingRequest, unknownFields⟩ := m
  cases streamingRequest with
  | streamingConfig c =>
    exact congrArg (fun c => StreamingRecognizeRequest.mk (.streamingConfig c) unknownFields)
      c.mergeFrom_empty
  | audioContent data | notSet => rfl

/-- What the client writes for a request. -/
def wire (w : WireFormat) (m : Api.StreamingRecognizeRequest) : Bytes := (ofApi m).internalSerialize w

theorem parse_wire {m : Api.StreamingRecognizeRequest} (hs : (wire w m).length < sizeLimit) :
    internalParse w {} (wire w m) = some (ofApi m) := by
  rw [internalParse, wire, (reads_serialize {} (wellFormed_ofApi m)).parse hs, if_pos (validUTF8_ofApi m),
    mergeFrom_new]

theorem eq_of_wire_eq {m n : Api.StreamingRecognizeRequest} (hs : (wire w m).length < sizeLimit)
    (h : wire w n = wire w m) : n = m := by
  have hn := parse_wire (h ▸ hs)
  rw [h, parse_wire hs] at hn
  exact (ofApi_injective (Option.some.inj hn)).symm

end StreamingRecognizeRequest

namespace RecognizeRequest

def ofApi (m : Api.RecognizeRequest) : RecognizeRequest where
  config := some (.ofApi m.config)
  audio := some { audioSource := .content m.audio.content }

theorem ofApi_injective : Function.Injective ofApi := by
  rintro ⟨config, ⟨data⟩⟩ ⟨config', ⟨data'⟩⟩ h
  simp only [ofApi, mk.injEq, Option.some.injEq, RecognitionAudio.mk.injEq, AudioSource.content.injEq,
    and_true] at h
  rw [RecognitionConfig.ofApi_injective h.1, h.2]

theorem mergeFrom_new (m : Api.RecognizeRequest) : mergeFrom {} (ofApi m) = ofApi m := by
  simp [mergeFrom, ofApi, RecognitionAudio.mergeFrom]

theorem validUTF8_ofApi (m : Api.RecognizeRequest) : (ofApi m).validUTF8 w = true := by
  simp [validUTF8, ofApi, RecognitionConfig.validUTF8_ofApi, RecognitionAudio.validUTF8]

theorem wellFormed_ofApi (m : Api.RecognizeRequest) : (ofApi m).WellFormed w where
  unknown := foreign_nil _
  config c hc := by cases hc; exact RecognitionConfig.wellFormed_ofApi m.config
  audio a ha := by cases ha; exact ⟨foreign_nil _⟩

def wire (w : WireFormat) (m : Api.RecognizeRequest) : Bytes := (ofApi m).internalSerialize w

theorem parse_wire {m : Api.RecognizeRequest} (hs : (wire w m).length < sizeLimit) :
    internalParse w {} (wire w m) = some (ofApi m) := by
  rw [internalParse, wire, (reads_serialize {} (wellFormed_ofApi m)).parse hs, if_pos (validUTF8_ofApi m),
    mergeFrom_new]

theorem eq_of_wire_eq {m n : Api.RecognizeRequest} (hs : (wire w m).length < sizeLimit)
    (h : wire w n = wire w m) : n = m := by
  have hn := parse_wire (h ▸ hs)
  rw [h, parse_wire hs] at hn
  exact (ofApi_injective (Option.some.inj hn)).symm

end RecognizeRequest

/-- **The server has the request that was built**, and no other request either client
can build has these bytes. -/
theorem requests_read {m : Api.StreamingRecognizeRequest} {m' : Api.RecognizeRequest}
    (hs : (StreamingRecognizeRequest.wire w m).length < sizeLimit)
    (hs' : (RecognizeRequest.wire w m').length < sizeLimit) :
    (StreamingRecognizeRequest.internalParse w {} (StreamingRecognizeRequest.wire w m) = some (.ofApi m) ∧
      ∀ n, StreamingRecognizeRequest.wire w n = StreamingRecognizeRequest.wire w m → n = m) ∧
    (RecognizeRequest.internalParse w {} (RecognizeRequest.wire w m') = some (.ofApi m') ∧
      ∀ n, RecognizeRequest.wire w n = RecognizeRequest.wire w m' → n = m') :=
  ⟨⟨StreamingRecognizeRequest.parse_wire hs, fun _ => StreamingRecognizeRequest.eq_of_wire_eq hs⟩,
    RecognizeRequest.parse_wire hs', fun _ => RecognizeRequest.eq_of_wire_eq hs'⟩

def openingRequest : Api.StreamingRecognizeRequest := .streamingConfig
  { config := { encoding := .linear16, sampleRateHertz := 16000, languageCode := "pl-PL"
                maxAlternatives := 1, speechContexts := [], enableWordTimeOffsets := false
                configFields := [{ key := "timeout", value := "" }] }
    singleUtterance := true
    interimResults := false }

def syncRequest : Api.RecognizeRequest where
  config := { encoding := .linear16, sampleRateHertz := 8000, languageCode := "", maxAlternatives := -1
              speechContexts := [{ phrases := [""] }], enableWordTimeOffsets := true, configFields := [] }
  audio := { content := [] }

theorem requests_read_at :
    (StreamingRecognizeRequest.internalParse standard {}
      (StreamingRecognizeRequest.wire standard openingRequest) = some (.ofApi openingRequest) ∧
      ∀ n, StreamingRecognizeRequest.wire standard n =
        StreamingRecognizeRequest.wire standard openingRequest →
        n = openingRequest) ∧
    (RecognizeRequest.internalParse standard {} (RecognizeRequest.wire standard syncRequest) =
      some (.ofApi syncRequest) ∧
      ∀ n, RecognizeRequest.wire standard n = RecognizeRequest.wire standard syncRequest →
        n = syncRequest) :=
  requests_read (by decide) (by decide)

end DictationClient.L1.Proto
