import LanguageClient.Text.Blank
import LanguageClient.Text.Case
import LanguageClient.Text.Count
import LanguageClient.Text.Lines
import LanguageClient.Text.Utf8

namespace LanguageClient.Rpc

inductive Frame
  | message (body : String)
  | log (line : String)
  deriving DecidableEq, Repr

-- A unit that is taken off the stream but says nothing.
inductive FrameFault
  | headersNotText (fault : Utf8.Fault)
  | lengthInvalid (value : String) (fault : Text.CountFault)
  | lengthMissing
  | bodyNotText (fault : Utf8.Fault)
  deriving DecidableEq, Repr

namespace FrameFault

def message : FrameFault → String
  | .headersNotText _ => "Failed to parse headers as UTF-8"
  | .lengthInvalid value _ => "Invalid Content-Length: " ++ value
  | .lengthMissing => "Missing Content-Length header"
  | .bodyNotText _ => "Frame body is not UTF-8"

def chain (f : FrameFault) : String :=
  match f with
  | .headersNotText fault | .bodyNotText fault => f.message ++ ": " ++ fault.message
  | .lengthInvalid _ fault => f.message ++ ": " ++ fault.message
  | .lengthMissing => f.message

end FrameFault

namespace Frame

def headerNames : List Bytes :=
  [Utf8.encode "content-length:", Utf8.encode "content-type:"]

def looksLikeHeader (buffer : Bytes) : Bool :=
  headerNames.any fun name =>
    (buffer.take name.length).map Text.lowerByte = name.take buffer.length

def encode (body : String) : String :=
  "Content-Length: " ++ toString body.utf8ByteSize ++ "\r\n\r\n" ++ body

def cutHeaders? : Bytes → Option (Bytes × Bytes)
  | [] => none
  | b :: bs =>
    if (b :: bs).take 4 = [13, 10, 13, 10] then some ([], bs.drop 3)
    else (cutHeaders? bs).map fun (headers, rest) => (b :: headers, rest)

def cutLine? : Bytes → Option (Bytes × Bytes)
  | [] => none
  | b :: bs =>
    if b = 10 then some ([b], bs) else (cutLine? bs).map fun (line, rest) => (b :: line, rest)

def lengthValue? (line : List Char) : Option (List Char) :=
  match Text.cut? ':' line with
  | some (name, value) =>
    if Text.sameAscii (Text.trim name) "content-length".toList then some (Text.trim value) else none
  | none => none

def contentLength (headers : Bytes) : Except FrameFault Nat :=
  match Utf8.decode headers with
  | .error fault => .error (.headersNotText fault)
  | .ok text =>
    match (Text.lines text.toList).findSome? lengthValue? with
    | none => .error .lengthMissing
    | some value =>
      (Text.readCount UInt64.size value).mapError (.lengthInvalid (String.ofList value))

inductive Next
  | frame (frame : Frame) (rest : Bytes)
  | fault (fault : FrameFault) (rest : Bytes)
  | wait (rest : Bytes)
  deriving DecidableEq, Repr

-- Takes a header block and its body. A block that names no length is dropped without a body.
def nextMessage (buffer : Bytes) : Next :=
  match cutHeaders? buffer with
  | none => .wait buffer
  | some (headers, rest) =>
    match contentLength headers with
    | .error fault => .fault fault rest
    | .ok length =>
      if rest.length < length then .wait buffer
      else
        match Utf8.decode (rest.take length) with
        | .ok body => .frame (.message body) (rest.drop length)
        -- A body that is no text is taken off all the same.
        | .error fault => .fault (.bodyNotText fault) (rest.drop length)

def logText (line : Bytes) : List Char :=
  Text.trim (Utf8.lossy line).toList

theorem cutLine?_length {bs line rest : Bytes} (h : cutLine? bs = some (line, rest)) :
    rest.length < bs.length := by
  induction bs generalizing line rest with
  | nil => simp [cutLine?] at h
  | cons b bs ih =>
    simp only [cutLine?] at h
    split at h
    case isTrue => grind
    case isFalse =>
      obtain ⟨⟨l, r⟩, h', e⟩ := Option.map_eq_some_iff.1 h
      cases e
      have := ih h'
      simp only [List.length_cons]
      omega

-- Takes the first unit off a buffer. Blank lines between units are dropped.
def next (buffer : Bytes) : Next :=
  if buffer = [] then .wait []
  else if looksLikeHeader buffer then nextMessage buffer
  else
    match _h : cutLine? buffer with
    | none => .wait buffer
    | some (line, rest) =>
      match logText line with
      | [] => next rest
      | text => .frame (.log (String.ofList text)) rest
termination_by buffer.length
decreasing_by exact cutLine?_length _h

abbrev Unit := Except FrameFault Frame

def take (buffer : Bytes) : Nat → List Unit × Bytes
  | 0 => ([], buffer)
  | n + 1 =>
    match next buffer with
    | .wait rest => ([], rest)
    | .frame frame rest =>
      let (units, left) := take rest n
      (.ok frame :: units, left)
    | .fault fault rest =>
      let (units, left) := take rest n
      (.error fault :: units, left)

-- Takes all units off a buffer, with the bytes that are left. Each unit has at least one byte, so
-- there are no more units than bytes.
def drain (buffer : Bytes) : List Unit × Bytes :=
  take buffer (buffer.length + 1)

end Frame
end LanguageClient.Rpc
