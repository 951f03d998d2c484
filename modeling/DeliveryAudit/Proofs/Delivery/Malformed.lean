import DeliveryAudit.Proofs.Delivery.Defects
import DeliveryAudit.Proofs.Delivery.Envelopes
import DeliveryAudit.Proofs.Json.Limits
import DeliveryAudit.Proofs.Text.Validity
/-!
# Malformed lines

A line in an envelope that holds no record is malformed, and then the
program tells of it, unless it holds a run of digits or of opening brackets
that the reader of JSON cannot take (`Record.Escapes`). The first line
without a record ends the audit, so that such a line ends the program with
a fault that nobody is told of (`Record.faults_of_lines`).
-/

namespace DeliveryAudit

namespace Record

variable {line : Text} {f : Fault}

variable [Bounds]

/-- **The lines that escape**: they have more digits in a row than can be
read, or a bracket behind more than can be open. -/
inductive Escapes (line : Text) : Fault → Prop
  | longInteger {digits : Text} : digits <:+: line →
      (∀ c ∈ digits, c.isDigit = true) → Number.digitLimit < digits.length →
      Escapes line (.longInteger digits.length)
  | nesting {before after : Text} (k : Json.Container) :
      line = before ++ k.opening :: after →
      Bounds.brackets ≤ before.countP Json.opens → Escapes line (.nesting k)

end Record

namespace Record

variable [Bounds]

theorem openEnvelope_nested (rest : Text) :
    openEnvelope (.scalar '[' :: (List.replicate Bounds.brackets (.scalar '[') ++ rest)) =
      .error (.nesting .array) := by
  rw [openEnvelope, Json.read_nested]

end Record

/-! ## A line of digits -/

namespace Record.Ones

local instance : Bounds := .usual

/-- A line of 4301 digits. -/
def line : Text := List.replicate 4301 (.scalar '1')

end Record.Ones

/-! ## A byte order mark

The only line of an object is nothing but a byte order mark. -/

namespace Bucket.OneObject

local instance : Bounds := .usual

/-- A file of one stored block, which holds nothing but a byte order mark. -/
def byteOrderMark : List UInt8 := [0x1F, 0x8B, 8, 0, 0, 0, 0, 0, 0, 3,
  1, 3, 0, 0xFC, 0xFF, 0xEF, 0xBB, 0xBF, 0xE1, 0x97, 0x10, 1, 3, 0, 0, 0]

end Bucket.OneObject

end DeliveryAudit
