import Atari800XL.Ring

namespace Atari800XL.Pokey

structure LowPass where
  alpha : Float32
  state : Float32 := 0.0
  deriving Inhabited

namespace LowPass

def pi : Float32 := Float32.ofBits 0x40490FDB

def create (cutoff sampleRate : Float32) : LowPass :=
  let rc := 1.0 / (2.0 * pi * cutoff)
  let dt := 1.0 / sampleRate
  { alpha := dt / (rc + dt) }

def process (f : LowPass) (input : Float32) : LowPass :=
  { f with state := f.state + f.alpha * (input - f.state) }

end LowPass

structure Sampler where
  nominalStep : UInt64
  step : UInt64
  phase : UInt64 := 0
  sum : UInt32 := 0
  count : UInt32 := 0
  filter : LowPass
  queue : Ring Float32
  deriving Inhabited

namespace Sampler

def queueCapacity : Nat := 8192

def cycle : UInt64 := 0x10000

def create (clockRate sampleRate : UInt32) : Sampler :=
  let rate := max sampleRate 1
  let nominalStep := (clockRate.toUInt64 <<< 16) / rate.toUInt64
  { nominalStep
    step := nominalStep
    filter := LowPass.create 8000.0 rate.toFloat32
    queue := Ring.create queueCapacity 0.0 }

def reset (s : Sampler) : Sampler :=
  { s with
    step := s.nominalStep
    phase := 0
    sum := 0
    count := 0
    queue := s.queue.clear }

def maxAdjustment : Float := 0.04

def adjustedStep (nominalStep : UInt64) (count capacity : Nat) : UInt64 :=
  let target := Float.ofNat capacity / 2.0
  let deviation := (Float.ofNat count - target) / target
  let deviation := if deviation < -1.0 then -1.0 else if deviation > 1.0 then 1.0 else deviation
  (nominalStep.toFloat * (1.0 + maxAdjustment * deviation)).toUInt64

def fullScale : Float32 := 60.0

def gain : Float32 := 0.8

def emit (s : Sampler) : Sampler :=
  match s with
  | { nominalStep, step := _, phase, sum, count, filter, queue } =>
    let average := if count > 0 then sum.toFloat32 / count.toFloat32 else 0.0
    let filter := filter.process (average / fullScale)
    let queue := queue.push (filter.state * gain)
    let step := adjustedStep nominalStep queue.count queue.capacity
    { nominalStep, step, phase, sum := 0, count := 0, filter, queue }

def add (s : Sampler) (level : UInt32) : Sampler :=
  let s := { s with sum := s.sum + level, count := s.count + 1, phase := s.phase + cycle }
  if s.phase ≥ s.step then { s with phase := s.phase - s.step }.emit else s

end Sampler

end Atari800XL.Pokey
