/-! # Coded members

A document names the members of a closed enumeration by integer codes.

* `Coded`: an enumeration with its codes and names.
* `Coded.ofCode?`: the member of a code; a code that no member has is refused.
* `Platform`, `Language`, `Protocol`, `MessageFormat`, `TimerClock`, `ModuleKind`: the
  enumerations of the format.
-/

namespace AppConfig
set_option autoImplicit false

/-- A closed enumeration whose members a document names by codes. -/
class Coded (α : Type) where
  /-- What the enumeration is called in messages. -/
  kind : String
  /-- The members in the order of their codes. -/
  all : List α
  code : α → Int
  name : α → String

/-- The member of a code. -/
def Coded.ofCode? (α : Type) [Coded α] (code : Int) : Option α :=
  (Coded.all : List α).find? fun a => Coded.code a = code

/-- What the generated application runs on. -/
inductive Platform where
  | linux
  | android
  | rtos
  | qnx
  deriving DecidableEq, Repr

instance : Coded Platform where
  kind := "platform"
  all := [.linux, .android, .rtos, .qnx]
  code
    | .linux => 0
    | .android => 1
    | .rtos => 2
    | .qnx => 3
  name
    | .linux => "LINUX"
    | .android => "ANDROID"
    | .rtos => "RTOS"
    | .qnx => "QNX"

/-- The language of the generated code. -/
inductive Language where
  | cpp
  | c
  | rust
  | python
  | java
  deriving DecidableEq, Repr

instance : Coded Language where
  kind := "lang"
  all := [.cpp, .c, .rust, .python, .java]
  code
    | .cpp => 0
    | .c => 1
    | .rust => 2
    | .python => 3
    | .java => 4
  name
    | .cpp => "CPP"
    | .c => "C"
    | .rust => "RUST"
    | .python => "PYTHON"
    | .java => "JAVA"

/-- What carries the messages of an app. -/
inductive Protocol where
  | intra
  | sedds
  | someIp
  | zmqIpc
  | zmqTcp
  | zmqEpgm
  | sharedMemory
  | hybrid
  deriving DecidableEq, Repr

instance : Coded Protocol where
  kind := "protocol_type"
  all := [.intra, .sedds, .someIp, .zmqIpc, .zmqTcp, .zmqEpgm, .sharedMemory, .hybrid]
  code
    | .intra => 0
    | .sedds => 1
    | .someIp => 2
    | .zmqIpc => 3
    | .zmqTcp => 4
    | .zmqEpgm => 5
    | .sharedMemory => 6
    | .hybrid => 7
  name
    | .intra => "INTRA"
    | .sedds => "SEDDS"
    | .someIp => "SOMEIP"
    | .zmqIpc => "ZMQ_IPC"
    | .zmqTcp => "ZMQ_TCP"
    | .zmqEpgm => "ZMQ_EPGM"
    | .sharedMemory => "SHM"
    | .hybrid => "HYBRID"

/-- Where the definition of a message comes from. -/
inductive MessageFormat where
  | proto
  | someIp
  | fastDds
  | cycloneDds
  | rtiConnext
  | ros
  | raw
  | custom
  deriving DecidableEq, Repr

instance : Coded MessageFormat where
  kind := "msg_type"
  all := [.proto, .someIp, .fastDds, .cycloneDds, .rtiConnext, .ros, .raw, .custom]
  code
    | .proto => 0
    | .someIp => 1
    | .fastDds => 2
    | .cycloneDds => 3
    | .rtiConnext => 4
    | .ros => 5
    | .raw => 6
    | .custom => 7
  name
    | .proto => "PROTO"
    | .someIp => "SOMEIP"
    | .fastDds => "FASTDDS"
    | .cycloneDds => "CYCLONEDDS"
    | .rtiConnext => "RTICONNEXT"
    | .ros => "ROS"
    | .raw => "RAW"
    | .custom => "CUSTOM"

/-- The clock that a timer follows. -/
inductive TimerClock where
  | steady
  | system
  | custom
  deriving DecidableEq, Repr

instance : Coded TimerClock where
  kind := "timer type"
  all := [.steady, .system, .custom]
  code
    | .steady => 0
    | .system => 1
    | .custom => 2
  name
    | .steady => "STEADY"
    | .system => "SYSTEM"
    | .custom => "CUSTOM"

/-- What sets a module going. -/
inductive ModuleKind where
  | timer
  | sync
  | condition
  deriving DecidableEq, Repr

instance : Coded ModuleKind where
  kind := "module type"
  all := [.timer, .sync, .condition]
  code
    | .timer => 0
    | .sync => 1
    | .condition => 2
  name
    | .timer => "TIMER_PROC"
    | .sync => "SYNC_PROC"
    | .condition => "COND_PROC"

end AppConfig
