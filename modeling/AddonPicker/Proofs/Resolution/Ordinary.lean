import AddonPicker.Proofs.Resolution.Demand

/-!
# Ordinary faults

The faults that a search comes to are ordinary: neither is any of them a cancellation, nor is it the
sign of a deadline. This is so for those of lookups as well, since a service that gave up waiting
counts as one that failed. What such a fault is reported with are the words of the service.
-/

namespace AddonPicker

namespace Fault

/-- A fault that is neither a cancellation nor the sign of a deadline. -/
def isOrdinary : Fault → Bool
  | .cancelled => false
  | .timedOut _ => false
  | _ => true

/-- The words of a fault are there if it has words or a title. -/
theorem reason_ne_empty {f : Fault} (titled : f.title ≠ "") : f.reason ≠ "" := by
  rw [reason]
  split
  · exact titled
  · rename_i worded
    intro none_
    rw [none_] at worded
    exact worded rfl

/-- What a lookup fails with is reported in the words of the service. -/
theorem reason_ofLookup (f : Fault) : f.ofLookup.reason = f.reason := by
  cases f with
  | timedOut words =>
      have titled : (timedOut words).title ≠ "" := by
        show "TimeoutError" ≠ ""
        decide
      have spoken := reason_ne_empty titled
      have worded : ¬(timedOut words).reason.isEmpty = true := by
        rw [String.isEmpty_iff]
        exact spoken
      exact if_neg worded
  | _ => rfl

/-- A lookup does not fail with the sign of a deadline. -/
theorem isOrdinary_ofLookup {f : Fault} (other : f ≠ .cancelled) : f.ofLookup.isOrdinary = true := by
  cases f with
  | cancelled => exact absurd rfl other
  | _ => rfl

end Fault

/-- A provider is without a name only if the table has none for it. -/
theorem Naming.isOrdinary_of_readable {n : Naming} {p : Provider} {f : Fault}
    (unnamed : n.readable p = .error f) : f.isOrdinary = true := by
  rw [readable, part, entry] at unnamed
  split at unnamed
  · rename_i names _
    cases name : names[1]? with
    | some v =>
        simp only [bind, Except.bind, name] at unnamed
        cases unnamed
    | none =>
        simp only [bind, Except.bind, name] at unnamed
        cases unnamed
        rfl
  · cases unnamed
    rfl

namespace Search

variable {scope : Scope}

theorem isOrdinary_noService (scope : Scope) (p : Provider) :
    (noService scope p).isOrdinary = true := by
  rw [noService]
  split
  · rfl
  · exact Naming.isOrdinary_of_readable ‹_›

/-- The only fault that a search comes to by itself is that a provider has no service. -/
theorem Leads.isOrdinary {s : Search} {ds : List Demand} {p : Progress} (leads : Leads scope s ds p)
    {f : Fault} (failed : p = .failed f) : f.isOrdinary = true := by
  induction leads with
  | finished => cases failed
  | passed _ _ ih => exact ih failed
  | asking => cases failed
  | failed =>
      cases failed
      exact isOrdinary_noService scope _

theorem isOrdinary_of_start {selected : List Choice} {f : Fault}
    (failed : start scope selected = .failed f) : f.isOrdinary = true :=
  (leads_walk selected _).isOrdinary failed

theorem isOrdinary_of_proceed {s : Search} {node : Choice} {later : List Dependency}
    {pending : List Choice} {f : Fault} (failed : s.proceed scope node later pending = .failed f) :
    f.isOrdinary = true :=
  (leads_proceed node later pending s).isOrdinary failed

end Search

/-- Answers that are of no use leave an ordinary fault behind. -/
theorem Question.isOrdinary_of_answer {scope : Scope} {q : Question} {pack? : Option Pack}
    {version? : Option Held} {f : Fault}
    (failed : q.answer scope pack? version? = .failed f) : f.isOrdinary = true := by
  cases version? with
  | none =>
      rw [answer, withoutVersion] at failed
      split at failed
      · rename_i g worded
        cases failed
        cases pack? with
        | none =>
            cases worded
            rfl
        | some pack =>
            cases readable : scope.naming.readable q.key.provider with
            | ok name =>
                rw [warning, readable] at worded
                cases worded
            | error g =>
                rw [warning, readable] at worded
                cases worded
                exact Naming.isOrdinary_of_readable readable
      · exact Search.isOrdinary_of_proceed failed
  | some version =>
      cases pack? with
      | none =>
          cases failed
          rfl
      | some pack => exact Search.isOrdinary_of_proceed failed

end AddonPicker
