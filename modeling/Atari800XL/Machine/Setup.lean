import Atari800XL.Video

namespace Atari800XL

structure Setup where
  video : VideoStandard := .ntsc
  audio : Bool := true
  sampleRate : UInt32 := 44100
  fileDevice : Bool := true
  deriving DecidableEq, Repr, Inhabited

end Atari800XL
