import AddonPicker.Proofs.Resolution.Demand

/-!
# What a reply comes to

After a question a search goes on in one of two ways, or it fails. Which of them it is hangs on the
catalogues and on the demand in question, and not on how far the search has come:
`Catalogue.Settles` says that it does not fail.
-/

namespace AddonPicker

namespace Question

/-- The search of a question once it is known that no version fits. -/
def declining (q : Question) (warning : String) : Search :=
  { q.search with
    unavailable := q.search.unavailable ++ [q.key]
    warnings := q.search.warnings ++ [warning] }

/-- The choice that an offered version makes. -/
def offered (q : Question) (pack : Pack) (version : Held) : Choice :=
  { version.detached.link q.node.pack.addonId with pack }

/-- The search of a question once a choice is discovered. -/
def discovering (q : Question) (choice : Choice) : Search :=
  { q.search with found := q.search.found ++ [⟨q.key, choice⟩] }

/-- The discovered choice is the last one that the search goes on with. -/
theorem agenda_append_demands (q : Question) (choice : Choice) :
    q.later.map (Demand.mk q.node.pack) ++ (q.pending ++ [choice]).flatMap Choice.demands =
      q.agenda ++ choice.demands := by
  simp [agenda]

/-- A warning names the catalogue. -/
theorem exists_readable_of_warning {scope : Scope} {q : Question} {pack? : Option Pack}
    {warning : String} (worded : q.warning scope pack? = .ok warning) :
    ∃ name, scope.naming.readable q.key.provider = .ok name := by
  cases readable : scope.naming.readable q.key.provider with
  | ok name => exact ⟨name, rfl⟩
  | error f =>
      cases pack? with
      | none => exact nomatch worded
      | some pack =>
          rw [Question.warning, readable] at worded
          exact nomatch worded

end Question

namespace Catalogue

/-- Catalogues answer a demand in such a way that a search can go on: they are there, there is a
pack, and there is a version of it or a name for the catalogue that has none. -/
structure Settles (c : Catalogue) (scope : Scope) (d : Demand) : Prop where
  served : scope.serves d.key.provider = true
  packed : ∃ pack, c.pack d.key.provider d.key.addonId = .ok (some pack)
  answered : (∃ version, c.version d.key.provider d.dependency = .ok (some version)) ∨
    c.version d.key.provider d.dependency = .ok none ∧
      ∃ name, scope.naming.readable d.key.provider = .ok name

/-- How a search goes on after a question. -/
inductive Replies (c : Catalogue) (scope : Scope) (q : Question) : Progress → Prop
  | failed (unsettled : ¬c.Settles scope q.demand) (f : Fault) : Replies c scope q (.failed f)
  | declined {pack : Pack} {warning : String}
      (packed : c.pack q.key.provider q.key.addonId = .ok (some pack))
      (answer : c.version q.key.provider q.dependency = .ok none)
      (worded : q.warning scope (some pack) = .ok warning) :
      Replies c scope q ((q.declining warning).proceed scope q.node q.later q.pending)
  | offered {pack : Pack} {version : Held}
      (packed : c.pack q.key.provider q.key.addonId = .ok (some pack))
      (answer : c.version q.key.provider q.dependency = .ok (some version)) :
      Replies c scope q ((q.discovering (q.offered pack version)).proceed scope q.node q.later
        (q.pending ++ [q.offered pack version]))

theorem replies (c : Catalogue) (scope : Scope) (q : Question) :
    c.Replies scope q (c.reply scope q) := by
  rw [reply]
  cases packed : c.pack q.key.provider q.key.addonId with
  | error f => exact .failed (fun settles => nomatch packed.symm.trans settles.packed.choose_spec) _
  | ok pack? =>
      cases answer : c.version q.key.provider q.dependency with
      | error f =>
          refine .failed (fun settles => ?_) _
          rcases settles.answered with ⟨version, offered⟩ | ⟨declined, -⟩
          · exact nomatch answer.symm.trans offered
          · exact nomatch answer.symm.trans declined
      | ok version? =>
          cases pack? with
          | none =>
              have unpacked : ¬c.Settles scope q.demand := fun settles =>
                nomatch packed.symm.trans settles.packed.choose_spec
              cases version? with
              | none => exact .failed unpacked _
              | some version => exact .failed unpacked _
          | some pack =>
              cases version? with
              | some version => exact .offered packed answer
              | none =>
                  show c.Replies scope q (q.withoutVersion scope (some pack))
                  rw [Question.withoutVersion]
                  cases worded : q.warning scope (some pack) with
                  | ok warning => exact .declined packed answer worded
                  | error f =>
                      refine .failed (fun settles => ?_) f
                      rcases settles.answered with ⟨version, offered⟩ | ⟨-, name, named⟩
                      · exact nomatch answer.symm.trans offered
                      · have named : scope.naming.readable q.key.provider = .ok name := named
                        rw [Question.warning, named] at worded
                        exact nomatch worded

end Catalogue

end AddonPicker
