namespace Atari800XL

/-- What can fall due. Of two events due in the same cycle the one that stands first here goes
first. -/
inductive Event
  | lineFetch
  | displayListInterrupt
  | serialOutNeeded
  | serialOutDone
  | serialInReady
  | timer1
  | timer2
  | timer4
  deriving DecidableEq, Repr, Inhabited

def Event.all : List Event :=
  [.lineFetch, .displayListInterrupt, .serialOutNeeded, .serialOutDone, .serialInReady,
    .timer1, .timer2, .timer4]

def never : UInt64 := 0xFFFFFFFFFFFFFFFF

structure Schedule where
  lineFetch : UInt64 := never
  displayListInterrupt : UInt64 := never
  serialOutNeeded : UInt64 := never
  serialOutDone : UInt64 := never
  serialInReady : UInt64 := never
  timer1 : UInt64 := never
  timer2 : UInt64 := never
  timer4 : UInt64 := never
  next : UInt64 := never
  stallUntil : UInt64 := 0
  deriving DecidableEq, Repr, Inhabited

namespace Schedule

def deadline (s : Schedule) : Event → UInt64
  | .lineFetch => s.lineFetch
  | .displayListInterrupt => s.displayListInterrupt
  | .serialOutNeeded => s.serialOutNeeded
  | .serialOutDone => s.serialOutDone
  | .serialInReady => s.serialInReady
  | .timer1 => s.timer1
  | .timer2 => s.timer2
  | .timer4 => s.timer4

def earliest (s : Schedule) : UInt64 :=
  min (min (min s.lineFetch s.displayListInterrupt) (min s.serialOutNeeded s.serialOutDone))
    (min (min s.serialInReady s.timer1) (min s.timer2 s.timer4))

def refresh (s : Schedule) : Schedule := { s with next := s.earliest }

def set (s : Schedule) (event : Event) (cycle : UInt64) : Schedule :=
  refresh <| match event with
    | .lineFetch => { s with lineFetch := cycle }
    | .displayListInterrupt => { s with displayListInterrupt := cycle }
    | .serialOutNeeded => { s with serialOutNeeded := cycle }
    | .serialOutDone => { s with serialOutDone := cycle }
    | .serialInReady => { s with serialInReady := cycle }
    | .timer1 => { s with timer1 := cycle }
    | .timer2 => { s with timer2 := cycle }
    | .timer4 => { s with timer4 := cycle }

def clear (s : Schedule) (event : Event) : Schedule := s.set event never

/-- The earliest event that is due at `now`, with its deadline. -/
def due (s : Schedule) (now : UInt64) : Option (Event × UInt64) :=
  if s.next > now then none
  else ((Event.all.map fun e => (e, s.deadline e)).filter (·.2 ≤ now)).minOn? (·.2)

def stallTo (s : Schedule) (cycle : UInt64) : Schedule :=
  if cycle > s.stallUntil then { s with stallUntil := cycle } else s

@[simp] theorem deadline_set (s : Schedule) (e f : Event) (cycle : UInt64) :
    (s.set e cycle).deadline f = if e = f then cycle else s.deadline f := by
  cases e <;> cases f <;> rfl

@[simp] theorem stallUntil_set (s : Schedule) (e : Event) (cycle : UInt64) :
    (s.set e cycle).stallUntil = s.stallUntil := by
  cases e <;> rfl

end Schedule

end Atari800XL
