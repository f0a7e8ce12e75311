import RockchipVaapi.H264.Job
import RockchipVaapi.Hevc.Va

/-!
# VA buffers and decode jobs of all codecs

What the access unit builders take in and hand on. The content of a parameter buffer is given
by the VA structures the driver copies out of it.
-/

namespace RockchipVaapi
open H264 Hevc

/-- `RKBuffer` of a VA parameter or data buffer. A parameter buffer is read as the structure of
the context's codec; the entry is `none` (or the list empty) where it is too small for that
structure. -/
inductive VABuffer
  | pictureParameter (h264 : Option VAPictureParameterBufferH264)
      (hevc : Option VAPictureParameterBufferHEVC)
  | iqMatrix (h264 : Option VAIQMatrixBufferH264) (hevc : Option VAIQMatrixBufferHEVC)
  | sliceParameter (h264 : List VASliceParameterBufferH264)
      (hevc : Option VASliceParameterBufferHEVC)
  | sliceData (data : List UInt8)
  | other

/-- A buffer as `build_h264_job` looks at it. -/
def VABuffer.h264 : VABuffer → H264.RKBuffer
  | .sliceParameter elements _ => .sliceParameter elements
  | .sliceData data => .sliceData data
  | _ => .other

/-- The bytes of a slice data buffer that holds any. -/
def VABuffer.sliceBytes : VABuffer → Option (List UInt8)
  | .sliceData (first :: data) => some (first :: data)
  | _ => none

/-- `RKDecodeJob` as the builders fill it. -/
structure DecodeJob where
  data : List UInt8
  surface : Nat
  fence : UInt64
  h264Field : Bool
  hidden : Bool
  repeatSlot : Nat
  hevcSequenceHeaders : Option (List UInt8)
  deriving DecidableEq, Repr

/-- The outcomes of the requests for memory and for a surface reference during one build.
`alloc` tells the block sizes `realloc` grants; `rewritten` and `scratch` are asked once for
each slice. -/
structure BuildMemory where
  alloc : Nat → Bool
  headers : Bool
  rewritten : Nat → Bool
  scratch : Nat → Bool
  jobCreated : Bool
  cached : Bool

/-- Every request is granted. -/
def BuildMemory.ample : BuildMemory :=
  ⟨fun _ => true, true, fun _ => true, fun _ => true, true, true⟩

/-- `decode_job_create` (`mpp_dec.c:787-805`). -/
def decodeJobCreate (memory : BuildMemory) (target : Nat × UInt64) (data : List UInt8) :
    Except VAError DecodeJob :=
  if memory.jobCreated then
    .ok { data := data, surface := target.1, fence := target.2, h264Field := false
          hidden := false, repeatSlot := 8, hevcSequenceHeaders := none }
  else .error .allocationFailed

end RockchipVaapi
