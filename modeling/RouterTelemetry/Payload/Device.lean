import RouterTelemetry.Json.Format

/-!
# The router itself

State, memory and processor load, as the resources below `/device` report them.
-/

namespace RouterTelemetry.Payload

open Json

/-- The temperature of the router. -/
structure Temperature where
  current : Measure := .missing
  status : String := ""

/-- How it is written. -/
def Temperature.format : Format Temperature :=
  .record "DeviceTemperature" {} <|
  .field "current" .measure (·.current) (fun v r => { r with current := v }) <|
  .field "status" .text (·.status) (fun v r => { r with status := v }) <|
  .nil

/-- Which access technologies are in use, as flags. -/
structure Access where
  ipv4 : Measure := .missing
  ipv6 : Measure := .missing
  ftth : Measure := .missing
  adsl : Measure := .missing
  vdsl : Measure := .missing

/-- How it is written. -/
def Access.format : Format Access :=
  .record "DeviceUsing" {} <|
  .field "ipv4" .measure (·.ipv4) (fun v r => { r with ipv4 := v }) <|
  .field "ipv6" .measure (·.ipv6) (fun v r => { r with ipv6 := v }) <|
  .field "ftth" .measure (·.ftth) (fun v r => { r with ftth := v }) <|
  .field "adsl" .measure (·.adsl) (fun v r => { r with adsl := v }) <|
  .field "vdsl" .measure (·.vdsl) (fun v r => { r with vdsl := v }) <|
  .nil

/-- The state of the router itself. -/
structure Device where
  now : String := ""
  status : Measure := .missing
  boots : Measure := .missing
  model : String := ""
  temperature : Temperature := {}
  access : Access := {}

/-- How it is written. -/
def Device.format : Format Device :=
  .record "DeviceInfo" {} <|
  .field "now" .text (·.now) (fun v r => { r with now := v }) <|
  .field "status" .measure (·.status) (fun v r => { r with status := v }) <|
  .cons "number_of_boots" "number_of_boots" ["numberofboots"] false .measure (·.boots)
    (fun v r => { r with boots := v }) <|
  .field "modelname" .text (·.model) (fun v r => { r with model := v }) <|
  .field "temperature" Temperature.format (·.temperature)
    (fun v r => { r with temperature := v }) <|
  .field "using" Access.format (·.access) (fun v r => { r with access := v }) <|
  .nil

/-- An element of `/device`. -/
def Device.page : Format Device :=
  .wrapped "DeviceInformations" {} "device" Device.format

/-- Memory in kilobytes. -/
structure Memory where
  total : Measure := .missing
  free : Measure := .missing
  cached : Measure := .missing

/-- How it is written. -/
def Memory.format : Format Memory :=
  .record "MemoryStats" {} <|
  .field "total" .measure (·.total) (fun v r => { r with total := v }) <|
  .field "free" .measure (·.free) (fun v r => { r with free := v }) <|
  .field "cached" .measure (·.cached) (fun v r => { r with cached := v }) <|
  .nil

/-- An element of `/device/mem`. -/
def Memory.page : Format Memory :=
  .wrapped "DeviceMemory" {} "device" (.wrapped "DeviceMemoryInner" {} "mem" Memory.format)

/-- Processor time by use. -/
structure ProcessorTime where
  total : Measure := .missing
  user : Measure := .missing
  nice : Measure := .missing
  system : Measure := .missing
  io : Measure := .missing
  idle : Measure := .missing
  irq : Measure := .missing

/-- How it is written. -/
def ProcessorTime.format : Format ProcessorTime :=
  .record "CpuTime" {} <|
  .field "total" .measure (·.total) (fun v r => { r with total := v }) <|
  .field "user" .measure (·.user) (fun v r => { r with user := v }) <|
  .field "nice" .measure (·.nice) (fun v r => { r with nice := v }) <|
  .field "system" .measure (·.system) (fun v r => { r with system := v }) <|
  .field "io" .measure (·.io) (fun v r => { r with io := v }) <|
  .field "idle" .measure (·.idle) (fun v r => { r with idle := v }) <|
  .field "irq" .measure (·.irq) (fun v r => { r with irq := v }) <|
  .nil

/-- Counts of processes. -/
structure Processes where
  created : Measure := .missing
  running : Measure := .missing
  blocked : Measure := .missing

/-- How it is written. -/
def Processes.format : Format Processes :=
  .record "CpuProcess" {} <|
  .field "created" .measure (·.created) (fun v r => { r with created := v }) <|
  .field "running" .measure (·.running) (fun v r => { r with running := v }) <|
  .field "blocked" .measure (·.blocked) (fun v r => { r with blocked := v }) <|
  .nil

/-- The load of the processor. -/
structure Processor where
  time : ProcessorTime := {}
  process : Processes := {}

/-- How it is written. -/
def Processor.format : Format Processor :=
  .record "CpuStats" {} <|
  .field "time" ProcessorTime.format (·.time) (fun v r => { r with time := v }) <|
  .field "process" Processes.format (·.process) (fun v r => { r with process := v }) <|
  .nil

/-- An element of `/device/cpu`. -/
def Processor.page : Format Processor :=
  .wrapped "DeviceCpu" {} "device" (.wrapped "DeviceCpuInner" {} "cpu" Processor.format)

end RouterTelemetry.Payload
