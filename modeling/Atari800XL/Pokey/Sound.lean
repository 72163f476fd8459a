import Atari800XL.Pokey.Sampler
import Atari800XL.Pokey.Tone

namespace Atari800XL.Pokey

structure Sound where
  enabled : Bool
  generator : Generator := {}
  done : UInt64 := 0
  sampler : Sampler
  deriving Inhabited

namespace Sound

def create (clockRate sampleRate : UInt32) (enabled : Bool) : Sound :=
  { enabled, sampler := Sampler.create clockRate sampleRate }

def setEnabled (s : Sound) (enabled : Bool) : Sound :=
  { s with
    enabled
    sampler.queue := if enabled then s.sampler.queue else s.sampler.queue.clear }

def reset (s : Sound) (now : UInt64) : Sound :=
  { s with generator := {}, done := now, sampler := s.sampler.reset }

def resetNoise (s : Sound) : Sound := { s with generator.noise := {} }

def reload (s : Sound) (p : Periods) : Sound := { s with generator := s.generator.reload p }

def buffered (s : Sound) : Nat := s.sampler.queue.count

def drain (s : Sound) (n : Nat) : List Float32 × Sound :=
  let (samples, queue) := s.sampler.queue.take n
  (samples, { s with sampler.queue := queue })

def play (cycles : Nat) (settings : Settings) (g : Generator) (out : Sampler) :
    Generator × Sampler :=
  match cycles with
  | 0 => (g, out)
  | cycles + 1 =>
    let g := g.step settings
    play cycles settings g (out.add (g.level settings))

/-- Bring the sound up to `now`. While the chip is held in reset time passes without effect. -/
def catchUp (s : Sound) (now : UInt64) (settings : Settings) : Sound :=
  if now ≤ s.done then s
  else
    match s with
    | { enabled, generator, done, sampler } =>
      let elapsed := now - done
      if settings.held then { enabled, generator, done := now, sampler }
      else if enabled then
        let (generator, sampler) := play elapsed.toNat settings generator sampler
        { enabled, generator, done := now, sampler }
      else
        { enabled
          generator := { generator with noise := generator.noise.skip elapsed }
          done := now
          sampler }

def random (s : Sound) (nineBit : Bool) : UInt8 := s.generator.noise.random nineBit

end Sound

end Atari800XL.Pokey
