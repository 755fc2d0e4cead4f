import AddonPicker.Pages.Container
import AddonPicker.Rehearsal.Report

/-!
# Rehearsing a page container

A container of plain pages, with listeners that note every switch.
-/

namespace AddonPicker.Rehearsal

/-- One step with a container. -/
inductive PageStep
  | pages
  | find (id : Value)
  | select (id : Value)
  | listen (label : Value) (failure : Option String)

namespace PageScene

/-- Take one step and yield its result. -/
def step : PageStep → Act PageStack Value
  | .pages => do
    return .list ((List.range (← get).container.ids.length).map Value.ofNat)
  | .find id => do
    return match (← get).page? id with
      | some (i, id, name) => .list [.ofNat i, id, name, .str (PageStack.pageText id)]
      | none => .null
  | .select id => do
    return .bool (← PageStack.select id)
  | .listen label failure => do
    PageStack.listen ⟨label, failure.map (Fault.raised "RuntimeError")⟩
    return .null

/-- Take one step and yield its outcome with what happened in it. -/
def play (st : PageStep) (s : PageStack) : (Except Fault Value × Journal) × PageStack :=
  let before := s.journal
  let (result, s) := (step st).perform s
  ((result, before.since s.journal), s)

end PageScene

end AddonPicker.Rehearsal
