import AddonPicker.Proofs.Resolution.Outcome

/-!
# What a resolution warns of

A resolution warns once for every question that was answered with no version, in the order of
asking. The warning names the pack, the choice that requires it and the catalogue.
-/

namespace AddonPicker

namespace Catalogue

/-- The warning about a question that is answered with no version. -/
def warning (c : Catalogue) (scope : Scope) (q : Question) : Except Fault String := do
  q.warning scope (← c.pack q.key.provider q.key.addonId)

/-- The warnings about those questions that were answered with no version. -/
def warnings (c : Catalogue) (scope : Scope) (asked : List Question) :
    List (Except Fault String) :=
  (asked.filter c.declines).map (c.warning scope)

theorem warnings_concat_of_offers {c : Catalogue} {scope : Scope} {q : Question} {v : Held}
    (answer : c.version q.key.provider q.dependency = .ok (some v)) (asked : List Question) :
    c.warnings scope (asked ++ [q]) = c.warnings scope asked := by
  have declined := (offers_of_version answer).2
  rw [warnings, List.filter_append, List.filter_cons_of_neg (Bool.not_eq_true _ |>.mpr declined),
    List.filter_nil, List.append_nil, warnings]

theorem warnings_concat_of_declines {c : Catalogue} {scope : Scope} {q : Question}
    (answer : c.version q.key.provider q.dependency = .ok none) (asked : List Question) :
    c.warnings scope (asked ++ [q]) = c.warnings scope asked ++ [c.warning scope q] := by
  have declined := (declines_of_version answer).2
  rw [warnings, List.filter_append, List.filter_cons_of_pos declined, List.filter_nil,
    List.map_append, warnings]
  rfl

end Catalogue

@[simp] theorem Search.warnings_pass (d : Demand) (s : Search) :
    (s.pass d).warnings = s.warnings := by
  rw [pass]
  split <;> rfl

namespace Progress

variable {c : Catalogue} {scope : Scope} {asked : List Question}

/-- A search has warned of every question that was answered with no version. -/
def Warned (c : Catalogue) (scope : Scope) (asked : List Question) : Progress → Prop
  | .finished closure => closure.warnings.map .ok = c.warnings scope asked
  | .failed _ => True
  | .asking q => q.search.warnings.map .ok = c.warnings scope asked

/-- Up to the next question a search warns of nothing. -/
theorem warned_of_leads {s : Search} {ahead : List Demand} {p : Progress}
    (leads : Search.Leads scope s ahead p)
    (warned : s.warnings.map .ok = c.warnings scope asked) : p.Warned c scope asked := by
  induction leads with
  | finished s => exact warned
  | @passed s d ds p known rest ih =>
      apply ih
      rw [Search.warnings_pass]
      exact warned
  | asking q unknown served => exact warned
  | failed ds unknown unserved => trivial

theorem warned_start (selected : List Choice) :
    (Search.start scope selected).Warned c scope [] :=
  warned_of_leads (Search.leads_walk selected _) rfl

/-- A reply adds one warning if it says that no version fits, and none otherwise. -/
theorem warned_reply {q : Question} (warned : (asking q).Warned c scope asked) :
    (c.reply scope q).Warned c scope (asked ++ [q]) := by
  have came := c.replies scope q
  generalize c.reply scope q = p at came ⊢
  cases came with
  | failed => trivial
  | @declined pack w packed answer worded =>
      have now : c.warning scope q = .ok w := by
        rw [Catalogue.warning, packed]
        exact worded
      refine warned_of_leads (Search.leads_proceed ..) ?_
      rw [Catalogue.warnings_concat_of_declines answer, now, Question.declining, List.map_append]
      exact congrArg (· ++ [Except.ok w]) warned
  | offered _ answer =>
      refine warned_of_leads (Search.leads_proceed ..) ?_
      rw [Catalogue.warnings_concat_of_offers answer]
      exact warned

end Progress

/-- The warnings of a resolution are those about its declined questions. -/
theorem Catalogue.warnings_of_resolve {c : Catalogue} {scope : Scope} {selected : List Choice}
    {fuel : Nat} {closure : Closure}
    (ended : (c.resolve scope fuel selected).outcome = some (.ok closure)) :
    closure.warnings.map .ok = c.warnings scope (c.resolve scope fuel selected).questions := by
  have warned : Progress.Warned c scope ([] ++ (c.resolve scope fuel selected).questions)
      (.finished closure) :=
    resolveFrom_induction (fun _ _ => Progress.warned_reply) (Progress.warned_start selected) ended
  exact warned

end AddonPicker
