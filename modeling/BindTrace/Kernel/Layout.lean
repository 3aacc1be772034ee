/-!
# Places in kernel structures

Offsets of the members that the probes read, for one build of the kernel on a 64-bit machine.
-/

namespace BindTrace

namespace Layout

def taskMm : UInt64 := 1136

def taskTgid : UInt64 := 1268

def taskRealParent : UInt64 := 1280

def taskGroupLeader : UInt64 := 1328

/-- Numbers of a task in its pid namespaces. -/
def taskThreadPid : UInt64 := 1368

def taskStartTime : UInt64 := 1552

def taskFs : UInt64 := 1816

def taskNsproxy : UInt64 := 1840

/-- Depth of the innermost pid namespace of a pid. -/
def pidLevel : UInt64 := 4

/-- Numbers of a pid, one for each namespace from the outermost on. -/
def pidNumbers : UInt64 := 144

def pidNumberStride : UInt64 := 16

def pidNumberNs : UInt64 := 8

def pidLevelLimit : UInt32 := 32

def nsproxyUts : UInt64 := 8

def nsproxyMnt : UInt64 := 24

def nsproxyPidForChildren : UInt64 := 32

def mntNsNumber : UInt64 := 24

def pidNsNumber : UInt64 := 136

def utsNames : UInt64 := 0

def fsPwdDentry : UInt64 := 48

def mmExeFile : UInt64 := 1312

def fileDentry : UInt64 := 72

def dentryParent : UInt64 := 24

/-- Name of a directory entry: its hash and length, then a pointer to its bytes. -/
def dentryName : UInt64 := 32

end Layout

end BindTrace
