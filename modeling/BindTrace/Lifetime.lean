/-!
# Identifying process lifetimes

A pid is used again after its process has ended, so a process is told from an earlier one of the
same pid by its start time.  Both go into one 64-bit key, and the key is scrambled by steps that
can each be undone.
-/

namespace BindTrace

/-- The start time with the process number laid over its high half. -/
def lifetimeKey (tgid : UInt32) (startTime : UInt64) : UInt64 :=
  startTime ^^^ (tgid.toUInt64 <<< 32)

def scramble (word : UInt64) : UInt64 :=
  let first := (word ^^^ (word >>> 30)) * 0xbf58476d1ce4e5b9
  let second := (first ^^^ (first >>> 27)) * 0x94d049bb133111eb
  second ^^^ (second >>> 31)

def lifetimeId (tgid : UInt32) (startTime : UInt64) : UInt64 :=
  scramble (lifetimeKey tgid startTime)

end BindTrace
