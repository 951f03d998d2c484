import DeliveryAudit.Destination.Stretch
/-!
# Views of a history

What a reader, a client or a clock sees of a stretch: its lines, its
requests, its sleeps, and how many pages and objects were answered.
`after` puts events in front of a stretch; a stretch that begins with
events that happen is one of these (`happen_andThen`), so that a
traversal can be read off piece by piece.
-/

namespace DeliveryAudit

/-- As many lines are counted as are handed out. -/
theorem Event.countP_isLine (es : List Event) :
    es.countP Event.isLine = (es.filterMap Event.line?).length := by
  induction es with
  | nil => rfl
  | cons e es ih =>
    cases e with
    | line v => rw [List.countP_cons_of_pos rfl, ih]; rfl
    | _ => rw [List.countP_cons_of_neg Bool.false_ne_true, ih]; rfl

namespace Stretch

/-- The lines that a stretch hands out. -/
def lines (s : Stretch) : List Value := s.events.filterMap Event.line?

/-- The requests that are made in a stretch. -/
def requests (s : Stretch) : List Request := s.events.filterMap Event.request?

/-- The delays of a stretch. -/
def sleeps (s : Stretch) : List Float := s.events.filterMap Event.sleep?

/-- How many pages are answered in a stretch. -/
def pages (s : Stretch) : Nat := s.events.countP Event.isPage

/-- How many objects are answered in a stretch. -/
def objects (s : Stretch) : Nat := s.events.countP Event.isObject

/-- A stretch that comes after these events. -/
def after (es : List Event) (s : Stretch) : Stretch := ⟨es ++ s.events, s.fault, s.world⟩

variable {es fs : List Event} {s : Stretch} {w : World} {next : World → Stretch}

@[simp] theorem after_events : (after es s).events = es ++ s.events := rfl

@[simp] theorem after_fault : (after es s).fault = s.fault := rfl

@[simp] theorem after_after : after es (after fs s) = after (es ++ fs) s := by
  simp [after]

theorem after_stop {f : TraversalFault} : after es (stop f w) = ⟨es, some f, w⟩ := by
  simp [after, stop]

theorem after_happen : after es (happen fs w) = ⟨es ++ fs, .none, w⟩ := rfl

/-- What follows events that happen comes after them. -/
@[simp] theorem happen_andThen : (happen es w).andThen next = after es (next w) := rfl

/-- Nothing follows events that end with a fault. -/
@[simp] theorem fault_andThen {f : TraversalFault} :
    (⟨es, some f, w⟩ : Stretch).andThen next = ⟨es, some f, w⟩ := rfl

theorem andThen_of_fault_eq_some {f : TraversalFault} (h : s.fault = some f) :
    s.andThen next = s := by
  rw [andThen, h]

theorem andThen_of_fault_eq_none (h : s.fault = .none) :
    s.andThen next = after s.events (next s.world) := by
  rw [andThen, h]
  rfl

@[simp] theorem lines_after : (after es s).lines = es.filterMap Event.line? ++ s.lines := by
  simp [lines]

@[simp] theorem requests_after :
    (after es s).requests = es.filterMap Event.request? ++ s.requests := by
  simp [requests]

@[simp] theorem sleeps_after : (after es s).sleeps = es.filterMap Event.sleep? ++ s.sleeps := by
  simp [sleeps]

@[simp] theorem pages_after : (after es s).pages = es.countP Event.isPage + s.pages := by
  simp [pages]

/-! ## Handing out lines -/

section Lines

variable (vs : List Value)

@[simp] theorem lines_map_line : (vs.map Event.line).filterMap Event.line? = vs := by
  rw [List.filterMap_map]
  exact List.filterMap_some

@[simp] theorem requests_map_line : (vs.map Event.line).filterMap Event.request? = [] := by
  rw [List.filterMap_map]
  exact List.filterMap_eq_nil_iff.2 fun _ _ => rfl

@[simp] theorem sleeps_map_line : (vs.map Event.line).filterMap Event.sleep? = [] := by
  rw [List.filterMap_map]
  exact List.filterMap_eq_nil_iff.2 fun _ _ => rfl

@[simp] theorem pages_map_line : (vs.map Event.line).countP Event.isPage = 0 := by
  rw [List.countP_map]
  exact List.countP_eq_zero.2 fun _ _ => Bool.false_ne_true

@[simp] theorem objects_map_line : (vs.map Event.line).countP Event.isObject = 0 := by
  rw [List.countP_map]
  exact List.countP_eq_zero.2 fun _ _ => Bool.false_ne_true

end Lines

/-- Every line that is counted has been handed out. -/
theorem countP_isLine : s.events.countP Event.isLine = s.lines.length :=
  Event.countP_isLine s.events

end Stretch

end DeliveryAudit
