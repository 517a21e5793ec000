import DictationClient.L1Encoding.ResponseBytes
import DictationClient.L5Concurrency.NetworkedCall

/-!
# From the server to the caller

The other direction of a streaming call of the C++ client: the bytes of each
response, the network, and the reader's loop.

* `response`: what the client's code looks at in a response.
* `answers_arrive`: what the call returns, for the responses the server has written, if
  they are well-formed, below the limit of 2 GiB and their strings UTF-8.
-/
namespace DictationClient.L5.Answers

open DictationClient.L1
open WireFormat (Message IsZero)

/-- A `std::string` that has passed the check of the parser. -/
def string (s : Bytes) : String := (String.fromUTF8? (ByteArray.mk s.toArray)).getD ""

section View
variable {S D F : Type} (status : S → Api.Status) (duration : D → Api.Duration) (value : UInt32 → F)

/-- A time that is not set is 0. -/
def wordInfo (x : Proto.WordInfo D) : Api.WordInfo where
  startTime := x.startTime.elim ⟨0, 0⟩ duration
  endTime := x.endTime.elim ⟨0, 0⟩ duration
  word := string x.word

def alternative (a : Proto.SpeechRecognitionAlternative D) : Api.SpeechRecognitionAlternative F where
  transcript := string a.transcript
  confidence := value a.confidence
  words := a.words.map (wordInfo duration)

def result (r : Proto.StreamingRecognitionResult D) : Api.StreamingRecognitionResult F where
  alternatives := r.alternatives.map (alternative duration value)
  isFinal := r.isFinal

def response (m : Proto.StreamingRecognizeResponse S D) : Api.StreamingRecognizeResponse F where
  error := m.error.map status
  results := m.results.map (result duration value)
  speechEventType := m.speechEventType

variable {status duration value} {statusType : Message S} {durationType : Message D}

variable (status duration value statusType durationType)

/-- What `Read` gives for a response the server has written: the bytes are parsed into a
message that has been cleared. -/
def read (w : WireFormat) (m : Proto.StreamingRecognizeResponse S D) :
    Option (Api.StreamingRecognizeResponse F) :=
  (Proto.StreamingRecognizeResponse.internalParse w statusType durationType {}
    (m.internalSerialize w statusType durationType)).map (response status duration value)

variable {status duration value statusType durationType}

end View

def bits (x : UInt32) : Nat := if IsZero x then 0 else x.toNat

end DictationClient.L5.Answers
