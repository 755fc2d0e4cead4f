import AddonPicker.Act
import AddonPicker.ResourceKind

/-!
# Collaborators of a dialog

What a dialog leaves to others: the user interface, the surface that is shown while dependencies
are checked, and the answer to a review. They are given by what they do.
-/

namespace AddonPicker

/-- The behaviour of a user interface. An operation that it leaves out does nothing and is not
seen; all others are noted and may then fail, depending on all that happened before. -/
structure Ui where
  omits : UiMethod → Bool := fun _ => false
  refusal : List Event → UiCall → Option Fault := fun _ _ => none
  geometry : List Event → List UInt8 := fun _ => []

namespace Ui

variable {σ : Type} [Journaled σ]

/-- Call the user interface. -/
def call (ui : Ui) (c : UiCall) : Act σ Unit := do
  if !ui.omits c.method then
    Journaled.note (.ui c)
    Act.failOn (ui.refusal (Journaled.journal (← get)).events c)

/-- The geometry of the window. -/
def saveGeometry (ui : Ui) : Act σ (List UInt8) := do
  ui.call .saveGeometry
  let events := (Journaled.journal (← get)).events
  return if ui.omits .saveGeometry then [] else ui.geometry events

end Ui

/-- One move of a progress surface. -/
inductive SurfaceMove
  | start
  | startIfIdle
  /-- Abort the run; the answer is noted if the surface shows it. -/
  | abort (shown : Bool)
  /-- Let everything else run until nothing can go on. -/
  | pause
  /-- Wait until the run has ended. -/
  | await
  /-- Go away with a result. -/
  | close (result : Bool)
  /-- Go away, with success if the run succeeded. -/
  | closeByOutcome
  | fail (fault : Fault)
deriving Repr

/-- The behaviour of a progress surface. -/
structure Surface where
  /-- The fault with which no surface comes up at all. -/
  creation : Option Fault := none
  /-- Whether the surface notes its coming and going. -/
  noted : Bool := false
  moves : List SurfaceMove := [.startIfIdle, .await, .closeByOutcome]
deriving Repr, Inhabited

namespace Surface

/-- The surface that starts the run if needed and waits for it. -/
def standard : Surface := {}

end Surface

/-- One move of a user in a review. -/
inductive ReviewMove
  /-- Untick the row at a position. -/
  | untick (position : Nat)
  | setEnabled (name enabled : Value)
  /-- Deselect a pack behind the review. -/
  | remove (pack : Pack) (version : Nat)
  /-- Select a pack behind the review. -/
  | add (pack : Pack) (version : Nat)
deriving Repr

/-- What a user does in a review, and the answer. -/
structure ReviewPlan where
  /-- Whether the user waits before the first move. -/
  waits : Bool := false
  moves : List ReviewMove := []
  approves : Bool := true
deriving Repr, Inhabited

end AddonPicker
