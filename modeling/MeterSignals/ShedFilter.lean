/-
# The load-shedding filter

The filter turns a noisy power reading into a flag "above the threshold". A reading above
both the estimate and the threshold becomes the estimate at once, so the flag rises
without delay. Any other reading moves the estimate by one part in `timeConstant` of the
distance, so the flag falls late and does not flap.

The rule needs an order, differences and quotients only. It runs on doubles and can be
studied over any ordered field.
-/

namespace MeterSignals

/-- The settings of a filter. -/
structure ShedFilter (α : Type) where
  threshold : α
  timeConstant : α

namespace ShedFilter

variable {α : Type} [LT α] [DecidableLT α] [Sub α] [Div α]

/-- The estimate after one reading. -/
def advance (filter : ShedFilter α) (estimate reading : α) : α :=
  if estimate < reading ∧ filter.threshold < reading then reading
  else estimate - (estimate - reading) / filter.timeConstant

/-- Whether an estimate is above the threshold. -/
def exceeds (filter : ShedFilter α) (estimate : α) : Bool := filter.threshold < estimate

/-- One frame: the estimate after it and the flag. A frame without a reading leaves the
estimate alone and has no flag. -/
def step (filter : ShedFilter α) (estimate : α) : Option α → α × Option Bool
  | none => (estimate, none)
  | some reading =>
    let next := filter.advance estimate reading
    (next, some (filter.exceeds next))

/-- The estimates and flags of a row of frames. -/
def run (filter : ShedFilter α) : (estimate : α) → List (Option α) → List (α × Option Bool)
  | _, [] => []
  | estimate, reading :: rest =>
    let next := filter.step estimate reading
    next :: run filter next.1 rest

end ShedFilter

end MeterSignals
