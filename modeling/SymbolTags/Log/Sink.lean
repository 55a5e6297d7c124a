import SymbolTags.Log.Event

namespace SymbolTags.Log

/-!
# Sinks — what becomes of events

The code that works on sources raises events, and a `Sink` says which of them are written.  An
event that is to be written and holds a number with too many digits cannot be: it ends the work
that raised it.

* `Sink.library` is the sink of a logger when no logging is set up;
* `Sink.takes` says that an event does not end the work.
-/

namespace Level

/-- Levels of at least a threshold are written. -/
def passes (threshold level : Level) : Bool :=
  threshold.severity ≤ level.severity

/-- The threshold of a logger that is set to a level when no logging is set up: a level that
    is not set leaves it to the root. -/
def threshold : Level → Level
  | notset => .warning
  | l => l

end Level

/-- What becomes of events. -/
structure Sink where
  /-- Events of this level are written. -/
  admits : Level → Bool

namespace Sink

/-- Writes nothing. -/
def silent : Sink where
  admits _ := false

/-- The sink of a logger that is set to a level when no logging is set up. -/
def library (level : Level := .notset) : Sink where
  admits := level.threshold.passes

/-- An event is not written, or can be. -/
def takes (sink : Sink) (e : Event) : Bool :=
  !sink.admits e.level || e.isWritable

/-- An event that can be written is no obstacle. -/
theorem takes_of_isWritable (sink : Sink) {e : Event} (h : e.isWritable = true) :
    sink.takes e = true := by
  rw [takes, h, Bool.or_true]

/-- An event that is not written is no obstacle either. -/
theorem takes_of_not_admits {sink : Sink} {e : Event} (h : sink.admits e.level = false) :
    sink.takes e = true := by
  rw [takes, h]
  rfl

/-- An event is an obstacle only if its level is written. -/
theorem takes_iff {sink : Sink} {e : Event} :
    sink.takes e = true ↔ (sink.admits e.level = true → e.isWritable = true) := by
  unfold takes
  cases sink.admits e.level <;> simp

/-- Just the events that are to be written and cannot be are obstacles. -/
theorem takes_eq_false_iff {sink : Sink} {e : Event} :
    sink.takes e = false ↔ sink.admits e.level = true ∧ e.isWritable = false := by
  unfold takes
  cases sink.admits e.level <;> simp

end Sink

end SymbolTags.Log
