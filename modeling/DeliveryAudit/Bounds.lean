/-!
# The bounds of a run

A value inside other values is read and written by calls inside of calls,
and how many of these fit depends on what has been called before the first
of them. So the depths that can be handled are given from outside, and so is
the number of repetitions for which a call is followed that is throttled
again and again. Whatever is said of a run is said of it within any bounds.
-/

namespace DeliveryAudit

/-- **The bounds of a run.** -/
class Bounds where
  /-- How many brackets of a JSON text may be open. -/
  brackets : Nat
  /-- How deep the collections of a settings file may nest. -/
  collections : Nat
  /-- How many references a chain of nodes of a settings file may have, each of
  which leads to the next. -/
  chains : Nat
  /-- How deep parts may lie in a value that is written. -/
  parts : Nat
  /-- How many repetitions are followed when the same answer comes again and
  again. -/
  repetitions : Nat
  /-- An object with no container in it can be read. -/
  brackets_pos : 0 < brackets

/-- The bounds of the program that is started from a command line. -/
abbrev Bounds.usual : Bounds := ⟨987, 492, 977, 993, 1000000, by decide⟩

end DeliveryAudit
