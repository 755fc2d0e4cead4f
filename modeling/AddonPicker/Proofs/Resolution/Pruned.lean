import AddonPicker.Resolution.Catalogue

/-!
# Declared dependencies that are not required

A pruned version declares its required dependencies and no others. Pruning everything that takes
part in a resolution, the selection as well as whatever the catalogues offer, changes neither the
questions that are asked nor the outcome, but for the pruning itself: declarations of other kinds
contribute nothing.
-/

namespace AddonPicker

namespace Version

/-- A version without the declarations that are not required. -/
def pruned (v : Version) : Version :=
  { v with dependencies := v.requiredDependencies }

@[simp] theorem requiredDependencies_pruned (v : Version) :
    v.pruned.requiredDependencies = v.requiredDependencies := by
  simp [pruned, requiredDependencies, List.filter_filter]

@[simp] theorem pruned_link (id : AddonId) (v : Version) :
    (v.link id).pruned = v.pruned.link id := by
  rw [link]
  by_cases known : v.requiredBy.contains id = true
  · rw [if_pos known]
    exact (if_pos known).symm
  · rw [if_neg known]
    exact (if_neg known).symm

end Version

namespace Held

/-- A held version that is pruned. -/
def pruned (h : Held) : Held :=
  { h with version := h.version.pruned }

@[simp] theorem pruned_link (id : AddonId) (h : Held) : (h.link id).pruned = h.pruned.link id :=
  congrArg (Held.mk · h.shared) (h.version.pruned_link id)

@[simp] theorem pruned_detached (h : Held) : h.detached.pruned = h.pruned.detached := rfl

end Held

namespace Choice

/-- A choice whose version is pruned. -/
def pruned (c : Choice) : Choice :=
  { c with version := c.version.pruned }

@[simp] theorem pack_pruned (c : Choice) : c.pruned.pack = c.pack := rfl

end Choice

namespace Discovery

/-- A discovery whose choice is pruned. -/
def pruned (d : Discovery) : Discovery :=
  { d with choice := d.choice.pruned }

@[simp] theorem key_pruned (d : Discovery) : d.pruned.key = d.key := rfl

@[simp] theorem pruned_link (id : AddonId) (d : Discovery) :
    (d.link id).pruned = d.pruned.link id := by
  simp [pruned, link, Choice.pruned]

end Discovery

namespace Search

variable (scope : Scope)

/-- A search whose discoveries are pruned. -/
def pruned (s : Search) : Search :=
  { s with found := s.found.map Discovery.pruned }

@[simp] theorem hasFound_pruned (key : PackKey) (s : Search) :
    s.pruned.hasFound key = s.hasFound key := by
  simp [hasFound, pruned, List.any_map, Function.comp_def]

@[simp] theorem isSettled_pruned (key : PackKey) (s : Search) :
    s.pruned.isSettled scope key = s.isSettled scope key := rfl

@[simp] theorem pruned_link (key : PackKey) (id : AddonId) (s : Search) :
    (s.link key id).pruned = s.pruned.link key id := by
  have pointwise (d : Discovery) : (if d.key = key then d.link id else d).pruned =
      if d.pruned.key = key then d.pruned.link id else d.pruned := by
    rw [Discovery.key_pruned]
    split <;> simp
  simp only [link, pruned, List.map_map, Function.comp_def, pointwise]

end Search

namespace Closure

/-- A closure whose choices are pruned. -/
def pruned (c : Closure) : Closure :=
  { c with dependencies := c.dependencies.map Choice.pruned }

end Closure

namespace Search

@[simp] theorem closure_pruned (s : Search) : s.pruned.closure = s.closure.pruned := by
  simp [closure, Closure.pruned, pruned, Function.comp_def, Discovery.pruned]

end Search

namespace Question

/-- A question in which every choice is pruned. -/
def pruned (q : Question) : Question :=
  { q with search := q.search.pruned, node := q.node.pruned, pending := q.pending.map Choice.pruned }

@[simp] theorem key_pruned (q : Question) : q.pruned.key = q.key := rfl

@[simp] theorem dependency_pruned (q : Question) : q.pruned.dependency = q.dependency := rfl

end Question

namespace Progress

/-- Progress in which every choice is pruned. -/
def pruned : Progress → Progress
  | .finished closure => .finished closure.pruned
  | .failed f => .failed f
  | .asking q => .asking q.pruned

end Progress

namespace Search

variable {scope : Scope}

/-- Going on with a choice looks at required dependencies only, if walking does. -/
theorem proceed_pruned_of_walk {pending : List Choice}
    (walked : ∀ s : Search, walk scope (pending.map Choice.pruned) s.pruned =
      (walk scope pending s).pruned)
    (node : Choice) (later : List Dependency) (s : Search) :
    s.pruned.proceed scope node.pruned later (pending.map Choice.pruned) =
      (s.proceed scope node later pending).pruned := by
  induction later generalizing s with
  | nil => exact walked s
  | cons d later ih =>
      simp only [proceed, scan, hasFound_pruned, isSettled_pruned, Choice.pack_pruned]
      by_cases found : s.hasFound (.ofDependency node.pack d) = true
      · simp only [found, if_true, ← pruned_link]
        exact ih _
      · by_cases settled : s.isSettled scope (.ofDependency node.pack d) = true
        · simp only [found, settled, if_true]
          exact ih s
        · by_cases served : scope.serves (PackKey.ofDependency node.pack d).provider = true <;>
            simp only [found, settled, served, if_true] <;> rfl

/-- Walking through choices looks at required dependencies only. -/
theorem walk_pruned (pending : List Choice) (s : Search) :
    walk scope (pending.map Choice.pruned) s.pruned = (walk scope pending s).pruned := by
  induction pending generalizing s with
  | nil => exact congrArg Progress.finished s.closure_pruned
  | cons node pending ih =>
      have step := proceed_pruned_of_walk ih node node.version.requiredDependencies s
      rw [← node.version.requiredDependencies_pruned] at step
      exact step.trans (by rw [Version.requiredDependencies_pruned]; rfl)

theorem proceed_pruned (node : Choice) (later : List Dependency) (pending : List Choice)
    (s : Search) :
    s.pruned.proceed scope node.pruned later (pending.map Choice.pruned) =
      (s.proceed scope node later pending).pruned :=
  proceed_pruned_of_walk (walk_pruned pending) node later s

theorem start_pruned (selected : List Choice) :
    start scope (selected.map Choice.pruned) = (start scope selected).pruned := by
  have keys : (selected.map Choice.pruned).map (fun c => PackKey.ofPack c.pack) =
      selected.map fun c => PackKey.ofPack c.pack := by
    simp [Function.comp_def]
  rw [start, keys]
  exact walk_pruned selected { selected := selected.map fun c => PackKey.ofPack c.pack }

end Search

namespace Question

variable {scope : Scope}

/-- The answer to a question is used in the same way after pruning. -/
theorem answer_pruned (q : Question) (pack? : Option Pack) (version? : Option Held) :
    q.pruned.answer scope pack? (version?.map Held.pruned) =
      (q.answer scope pack? version?).pruned := by
  cases version? with
  | none =>
      show q.pruned.withoutVersion scope pack? = (q.withoutVersion scope pack?).pruned
      have sameWarning : q.pruned.warning scope pack? = q.warning scope pack? := rfl
      rw [withoutVersion, withoutVersion, sameWarning]
      cases q.warning scope pack? with
      | error f => rfl
      | ok w =>
          exact Search.proceed_pruned q.node q.later q.pending
            { q.search with
              unavailable := q.search.unavailable ++ [q.key], warnings := q.search.warnings ++ [w] }
  | some version =>
      show q.pruned.withVersion scope pack? version.pruned =
        (q.withVersion scope pack? version).pruned
      cases pack? with
      | none => rfl
      | some pack =>
          let choice : Choice := { version.detached.link q.node.pack.addonId with pack }
          let s : Search := { q.search with found := q.search.found ++ [⟨q.key, choice⟩] }
          have sameChoice : choice.pruned =
              { version.pruned.detached.link q.node.pack.addonId with pack } :=
            congrArg (Choice.mk · pack) (version.detached.pruned_link q.node.pack.addonId)
          have step := @Search.proceed_pruned scope q.node q.later (q.pending ++ [choice]) s
          rw [Search.pruned, List.map_append, List.map_append, List.map_singleton,
            List.map_singleton, Discovery.pruned, sameChoice] at step
          exact step

end Question

namespace Catalogue

variable {scope : Scope}

/-- Catalogues that offer pruned versions. -/
def pruned (c : Catalogue) : Catalogue :=
  { c with version := fun p d => (c.version p d).map (Option.map Held.pruned) }

theorem reply_pruned (c : Catalogue) (q : Question) :
    c.pruned.reply scope q.pruned = (c.reply scope q).pruned := by
  simp only [reply, pruned, Question.key_pruned, Question.dependency_pruned]
  cases c.pack q.key.provider q.key.addonId with
  | error f => rfl
  | ok pack? =>
      cases c.version q.key.provider q.dependency with
      | error f => rfl
      | ok version? => exact q.answer_pruned pack? version?

end Catalogue

namespace Resolution

/-- A resolution in which every choice is pruned. -/
def pruned (r : Resolution) : Resolution where
  questions := r.questions.map Question.pruned
  outcome := r.outcome.map (·.map Closure.pruned)

@[simp] theorem keys_pruned (r : Resolution) : r.pruned.keys = r.keys := by
  simp [keys, pruned, Function.comp_def]

end Resolution

namespace Catalogue

variable {scope : Scope}

theorem resolveFrom_pruned (c : Catalogue) (fuel : Nat) (p : Progress) :
    c.pruned.resolveFrom scope fuel p.pruned = (c.resolveFrom scope fuel p).pruned := by
  induction fuel generalizing p with
  | zero => cases p <;> rfl
  | succ fuel ih =>
      cases p with
      | finished closure => rfl
      | failed f => rfl
      | asking q =>
          have rest := ih (c.reply scope q)
          rw [← reply_pruned] at rest
          exact congrArg (Resolution.after q.pruned) rest

/-- A resolution of pruned choices against pruned offers is the pruned resolution. -/
theorem resolve_pruned (c : Catalogue) (fuel : Nat) (selected : List Choice) :
    c.pruned.resolve scope fuel (selected.map Choice.pruned) =
      (c.resolve scope fuel selected).pruned := by
  rw [resolve, Search.start_pruned]
  exact c.resolveFrom_pruned fuel _

end Catalogue

end AddonPicker
