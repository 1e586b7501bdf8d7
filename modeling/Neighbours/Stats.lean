/-! Counters of the packet path. They wrap around at `2 ^ 64`. -/

namespace Neighbours

structure Stats where
  received : UInt64
  ignored : UInt64
  dispatched : UInt64
  invoked : UInt64
  faults : UInt64
  emitted : UInt64
  guarded : UInt64
deriving DecidableEq

namespace Stats

def zero : Stats :=
  ⟨0, 0, 0, 0, 0, 0, 0⟩

def toList (stats : Stats) : List UInt64 :=
  [stats.received, stats.ignored, stats.dispatched, stats.invoked, stats.faults, stats.emitted,
    stats.guarded]

def countReceived (stats : Stats) : Stats :=
  { stats with received := stats.received + 1 }

def countIgnored (stats : Stats) : Stats :=
  { stats with ignored := stats.ignored + 1 }

def countDispatched (stats : Stats) : Stats :=
  { stats with dispatched := stats.dispatched + 1 }

def countInvoked (stats : Stats) : Stats :=
  { stats with invoked := stats.invoked + 1 }

def countFault (stats : Stats) : Stats :=
  { stats with faults := stats.faults + 1 }

def countEmitted (stats : Stats) : Stats :=
  { stats with emitted := stats.emitted + 1 }

def countGuarded (stats : Stats) : Stats :=
  { stats with guarded := stats.guarded + 1 }

end Stats

end Neighbours
