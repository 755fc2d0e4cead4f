import AddonPicker.Resolution.Search

/-!
# Resolution in one go

Catalogues whose answers are a function of what they are asked, and a search that is carried from
its start to its end against them, with nothing in between. The result keeps every question in the
order of asking.

A search need not end if a catalogue always comes up with new versions, so the number of questions
is bounded. The bound only cuts a search off.
-/

namespace AddonPicker

/-- What catalogues answer: to the lookup of a pack, and to that of a version for a declared
dependency. -/
structure Catalogue where
  pack : Provider → AddonId → Except Fault (Option Pack)
  version : Provider → Dependency → Except Fault (Option Held)

/-- A search against catalogues: the questions in order, and the outcome unless the search was cut
off. -/
structure Resolution where
  questions : List Question
  outcome : Option (Except Fault Closure)

namespace Resolution

/-- Put a question in front. -/
def after (q : Question) (r : Resolution) : Resolution :=
  { r with questions := q :: r.questions }

/-- The keys that were asked for, in order. -/
def keys (r : Resolution) : List PackKey :=
  r.questions.map Question.key

@[simp] theorem outcome_after (q : Question) (r : Resolution) :
    (r.after q).outcome = r.outcome := rfl

@[simp] theorem questions_after (q : Question) (r : Resolution) :
    (r.after q).questions = q :: r.questions := rfl

@[simp] theorem keys_after (q : Question) (r : Resolution) :
    (r.after q).keys = q.key :: r.keys := rfl

end Resolution

namespace Catalogue

variable (c : Catalogue) (scope : Scope)

/-- How a search goes on after a question: first the pack is looked up, then its version. -/
def reply (q : Question) : Progress :=
  match c.pack q.key.provider q.key.addonId with
  | .error f => .failed f.ofLookup
  | .ok pack =>
    match c.version q.key.provider q.dependency with
    | .error f => .failed f.ofLookup
    | .ok version => q.answer scope pack version

/-- Carry a search on for a bounded number of questions. -/
def resolveFrom : Nat → Progress → Resolution
  | _, .finished closure => ⟨[], some (.ok closure)⟩
  | _, .failed f => ⟨[], some (.error f)⟩
  | 0, .asking _ => ⟨[], none⟩
  | fuel + 1, .asking q => (resolveFrom fuel (c.reply scope q)).after q

/-- Search the closure of a selection with a bounded number of questions. -/
def resolve (fuel : Nat) (selected : List Choice) : Resolution :=
  c.resolveFrom scope fuel (Search.start scope selected)

@[simp] theorem resolveFrom_finished (fuel : Nat) (closure : Closure) :
    c.resolveFrom scope fuel (.finished closure) = ⟨[], some (.ok closure)⟩ := by
  cases fuel <;> rfl

@[simp] theorem resolveFrom_failed (fuel : Nat) (f : Fault) :
    c.resolveFrom scope fuel (.failed f) = ⟨[], some (.error f)⟩ := by
  cases fuel <;> rfl

theorem length_questions_resolveFrom_le (fuel : Nat) (p : Progress) :
    (c.resolveFrom scope fuel p).questions.length ≤ fuel := by
  induction fuel generalizing p with
  | zero => cases p <;> simp [resolveFrom]
  | succ fuel ih =>
    cases p with
    | finished closure => simp
    | failed f => simp
    | asking q =>
      have := ih (c.reply scope q)
      simp only [resolveFrom, Resolution.questions_after, List.length_cons]
      omega

end Catalogue

end AddonPicker
