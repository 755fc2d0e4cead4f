import AddonPicker.Catalog.Closure
import AddonPicker.Value.Text

/-!
# Scripted catalogue services

A catalogue service that answers from tables. Some of its packs stand behind gates: a lookup waits
there until the gate is opened, and a cancellation meanwhile interrupts it unless the service
intercepts it.
-/

namespace AddonPicker.Rehearsal

/-- A catalogue service given by its answers. Of several answers for an id the last one counts. -/
structure Service where
  provider : Provider
  packs : List (Value × Except Fault (Option Pack)) := []
  versions : List (Value × Except Fault (Option Held)) := []
  /-- Answers for dependencies that are pinned, or not, in a certain way. -/
  pinned : List (Value × Value × Except Fault (Option Held)) := []
  gates : List Value := []
  /-- The ids whose lookups go on in spite of a cancellation. -/
  intercepted : List Value := []
  offersPacks : Bool := true
  offersVersions : Bool := true

namespace Service

/-- Whether a value is among others. -/
def holds (ids : List Value) (id : AddonId) : Bool :=
  ids.any id.toValue.agrees

/-- The answer to the lookup of a pack. -/
def packAnswer (s : Service) (id : AddonId) : Except Fault (Option Pack) :=
  if !s.offersPacks then .error .unimplemented
  else
    match s.packs.reverse.find? fun entry => id.toValue.agrees entry.1 with
    | some (_, answer) => answer
    | none => .error (.lookupFailed ("Failed to fetch project " ++ id.toValue.text))

/-- The answer to the lookup of a version. -/
def versionAnswer (s : Service) (d : Dependency) : Except Fault (Option Held) :=
  let id := d.addonId.toValue
  let pin := (d.pin.map Value.str).getD .null
  if !s.offersVersions then .error .unimplemented
  else
    match s.pinned.reverse.find? fun entry => id.agrees entry.1 && pin.agrees entry.2.1 with
    | some (_, _, answer) => answer
    | none =>
      match s.versions.reverse.find? fun entry => id.agrees entry.1 with
      | some (_, answer) => answer
      | none => .ok none

end Service

end AddonPicker.Rehearsal
