import CSubset.Log

/-!
# Where events go

A service lets events of sufficient importance through to a sink. A sink keeps events, writes them to the console,
or passes them on to other sinks.
-/

namespace CSubset

inductive Channel where
  | out | err
  deriving DecidableEq, Repr

inductive Delivery where
  | kept (e : Event)
  | line (channel : Channel) (text : String)

inductive Sink where
  | memory
  | console (least : Level) (structured : Bool)
  | several (least : Level) (sinks : List Sink)

def Event.channel (e : Event) : Channel := if e.level = .error then .err else .out

mutual

def Sink.deliver (e : Event) : Sink → List Delivery
  | .memory => [.kept e]
  | .console least structured =>
    if least.passes e.level then [.line e.channel (if structured then e.toJson.compact else e.text)] else []
  | .several least sinks => if least.passes e.level then deliverAll e sinks else []

def Sink.deliverAll (e : Event) : List Sink → List Delivery
  | [] => []
  | sink :: sinks => Sink.deliver e sink ++ deliverAll e sinks

end

structure LogService where
  least : Level
  sink : Sink

namespace LogService

def admits (s : LogService) (l : Level) : Bool := s.least.passes l

def log (s : LogService) (e : Event) : List Delivery := if s.admits e.level then s.sink.deliver e else []

end LogService

structure LogSettings where
  structured : Bool
  console : Bool
  least : Level
  deriving DecidableEq, Repr

def LogService.ofSettings (s : LogSettings) : LogService where
  least := s.least
  sink := .several s.least (if s.console then [.console s.least s.structured] else [])

end CSubset
