import AddonPicker.Proofs.Selection.Flags

/-!
# The selection as the replay of its last adds

Selecting a version goes by way of deselecting, and what is deselected is found by name. So what a
selection holds can be read off the list of changes made to it: an entry is there if it was made by
a change after which no other was about its name, and entries stand in the order in which they were
made. The reading is of a list of changes with their answers, and does not keep any table.
-/

namespace AddonPicker

namespace Selection

open Act

/-- What a change answers: the entry that it made, if it was to select a version. -/
def Change.answer (s : Selection) : Change → Except Fault (Option Entry)
  | .add pack version indexed => ((Selection.add pack version indexed).perform s).1.map some
  | .remove pack version => ((Selection.remove pack version).perform s).1.map fun _ => none
  | .removeByName name => ((Selection.removeByName name).perform s).1.map fun _ => none

/-- Whether a change is about the pack of a name. -/
def Change.concerns (name : String) : Change → Bool
  | .add pack _ _ => pack.name == name
  | .remove pack _ => pack.name == name
  | .removeByName (.str given) => given == name
  | .removeByName _ => false

/-- Whether a change is to select a version. -/
def Change.isAdd : Change → Bool
  | .add .. => true
  | _ => false

/-- Neither a page nor a listener refuses a change: the only one that fails is given a name that
cannot be looked up. -/
def Change.Passes (s : Selection) (c : Change) : Prop :=
  (c.answer s).isOk = true ∨ ∃ name, c = .removeByName name ∧ name.isHashable = false

/-- None of the changes made to a selection, one after the other, is refused. -/
def LetsPass : Selection → List Change → Prop
  | _, [] => True
  | s, c :: later => c.Passes s ∧ LetsPass (c.make s) later

/-- Changes made to a selection, each with its answer. -/
def told : Selection → List Change → List (Change × Except Fault (Option Entry))
  | _, [] => []
  | s, c :: later => (c, c.answer s) :: told (c.make s) later

/-- The entry that an answer tells of. -/
def made : Except Fault (Option Entry) → Option Entry
  | .ok e => e
  | .error _ => none

/-- The entries made by changes after which no change was about the same name, in order. -/
def lastAdds : List (Change × Except Fault (Option Entry)) → List Entry
  | [] => []
  | (_, answer) :: later =>
    ((made answer).filter fun e => !later.any (·.1.concerns e.pack.name)).toList ++
      lastAdds later

/-- All that can be asked of a selection agrees with a list of entries. -/
structure Agrees (s : Selection) (tasks : List Entry) : Prop where
  entries : s.entries = tasks
  names : s.names = tasks.map (·.pack.name)
  distinct : s.names.Nodup
  get : ∀ name e, s.lookUp (.str name) = .ok (some e) ↔ e ∈ tasks ∧ e.pack.name = name
  missing : ∀ name, s.lookUp (.str name) = .ok none ↔ ∀ e ∈ tasks, e.pack.name ≠ name
  length : s.entries.length = tasks.length
  isEmpty : s.isEmpty = true ↔ tasks = []

variable {s : Selection} {c : Change} {changes : List Change}

theorem exists_of_isOk_map {α β : Type} {r : Except Fault α} {f : α → β}
    (passed : (r.map f).isOk = true) : ∃ x, r = .ok x := by
  cases r with
  | error f => simp [Except.map, Except.isOk, Except.toBool] at passed
  | ok x => exact ⟨x, rfl⟩

/-- The entry that is handed back is the one asked for. -/
theorem yields_add (pack : Pack) (version : VersionId) (indexed : Value) :
    Yields (· = ⟨pack, version, indexed⟩) (add pack version indexed) := by
  have any {α : Type} (a : Act Selection α) : Keeps (fun _ => True) a := fun _ _ => trivial
  rw [add_eq]
  refine Secures.yields ?_
  exact (any _).bind_secures fun _ => (any _).bind_secures fun _ =>
    (any _).bind_secures fun _ => secures_pure rfl

theorem perform_removeByName (name : Value) (s : Selection) :
    (removeByName name).perform s =
      match s.lookUp name with
      | .error f => (.error f, s)
      | .ok none => (.ok (), s)
      | .ok (some e) => (remove e.pack e.version).perform s := by
  rw [removeByName, perform_bind, perform_get]
  dsimp only
  rw [perform_bind, perform_check]
  cases s.lookUp name with
  | error f => rfl
  | ok found => cases found <;> rfl

/-- Only a text is a name that something may be selected under. -/
theorem lookUp_eq_some {name : Value} {e : Entry} (found : s.lookUp name = .ok (some e)) :
    name = .str e.pack.name ∧ e ∈ s.entries := by
  refine ⟨?_, mem_of_lookUp found⟩
  unfold lookUp at found
  split at found
  · have known := List.find?_some (Except.ok.inj found)
    simp at known
    rw [known]
  · split at found <;> cases found

/-- A name under which nothing is found is that of no entry. -/
theorem concerns_of_unknown {name : Value} (unknown : ∀ e, s.lookUp name ≠ .ok (some e))
    {e : Entry} (among : e ∈ s.entries) :
    Change.concerns e.pack.name (.removeByName name) = false := by
  cases name with
  | str given =>
      rw [Change.concerns, beq_eq_false_iff_ne]
      intro same
      obtain ⟨found, known⟩ := Option.isSome_iff_exists.mp
        (List.find?_isSome (p := (·.pack.name == given)) |>.mpr ⟨e, among, by simp [same]⟩)
      exact unknown found (congrArg Except.ok known)
  | _ => rfl

/-- Nothing is made by deselecting. -/
theorem made_of_not_isAdd (kind : c.isAdd = false) : made (c.answer s) = none := by
  cases c with
  | add pack version indexed => simp [Change.isAdd] at kind
  | remove pack version =>
      simp only [Change.answer]
      cases ((remove pack version).perform s).1 <;> rfl
  | removeByName name =>
      simp only [Change.answer]
      cases ((removeByName name).perform s).1 <;> rfl

/-- What an answer tells of was made by the change that it answers. -/
theorem concerns_of_made {e : Entry} (came : made (c.answer s) = some e) :
    c.concerns e.pack.name = true := by
  cases c with
  | add pack version indexed =>
      have yielded := yields_add pack version indexed s
      simp only [Change.answer] at came
      cases ended : ((add pack version indexed).perform s).1 with
      | error f => simp [ended, Except.map, made] at came
      | ok entry =>
          obtain rfl := yielded entry ended
          simp only [ended, Except.map, made, Option.some.injEq] at came
          simp [← came, Change.concerns]
  | remove pack version =>
      rw [made_of_not_isAdd rfl] at came
      cases came
  | removeByName name =>
      rw [made_of_not_isAdd rfl] at came
      cases came

/-- A pack that is deselected is gone, and that is all. -/
theorem entries_remove {pack : Pack} {version : VersionId}
    (passed : ((remove pack version).perform s).1.isOk = true) :
    ((remove pack version).perform s).2.entries = s.entries.filter (·.pack.name != pack.name) := by
  have removes := removes_remove pack version s
  generalize (remove pack version).perform s = performed at removes passed ⊢
  cases removes with
  | refused fades f => simp [Except.isOk, Except.toBool] at passed
  | removed result j => rfl

/-- A version that is selected stands at the end, without what was there under its name. -/
theorem entries_add {pack : Pack} {version : VersionId} {indexed : Value}
    (passed : ((add pack version indexed).perform s).1.isOk = true) :
    ((add pack version indexed).perform s).2.entries =
      s.entries.filter (·.pack.name != pack.name) ++ [⟨pack, version, indexed⟩] := by
  have adds := adds_add pack version indexed s
  generalize (add pack version indexed).perform s = performed at adds passed ⊢
  cases adds with
  | refused fades f => simp [Except.isOk, Except.toBool] at passed
  | removed f j => simp [Except.isOk, Except.toBool] at passed
  | added result j => rfl

/-- What is dropped by name is gone as well, and if there was no such entry, none is. -/
theorem entries_removeByName {name : Value} (passes : (Change.removeByName name).Passes s) :
    ((removeByName name).perform s).2.entries =
      s.entries.filter fun e => !Change.concerns e.pack.name (.removeByName name) := by
  have spared (unknown : ∀ e, s.lookUp name ≠ .ok (some e)) :
      s.entries.filter (fun e => !Change.concerns e.pack.name (.removeByName name)) =
        s.entries := by
    refine List.filter_eq_self.mpr fun e among => ?_
    rw [concerns_of_unknown unknown among]
    rfl
  rw [perform_removeByName]
  cases looked : s.lookUp name with
  | error f => exact (spared (by simp [looked])).symm
  | ok found =>
      cases found with
      | none => exact (spared (by simp [looked])).symm
      | some e =>
          obtain ⟨rfl, known⟩ := lookUp_eq_some looked
          obtain passed | ⟨name, named, unhashable⟩ := passes
          · obtain ⟨done, ended⟩ := exists_of_isOk_map passed
            rw [perform_removeByName, looked] at ended
            have dropped := entries_remove (s := s) (by rw [ended]; rfl)
            dsimp only
            rw [dropped]
            simp [Change.concerns, bne, Bool.beq_comm]
          · cases named
            simp [Value.isHashable] at unhashable

/-- One step of the replay: what a change is about is gone, and what it made stands at the end. -/
theorem entries_make (passes : c.Passes s) :
    (c.make s).entries =
      s.entries.filter (fun e => !c.concerns e.pack.name) ++ (made (c.answer s)).toList := by
  cases c with
  | add pack version indexed =>
      obtain passed | ⟨name, named, -⟩ := passes
      · obtain ⟨e, ended⟩ := exists_of_isOk_map passed
        have same := yields_add pack version indexed s e ended
        have entered := entries_add (s := s) (by rw [ended]; rfl)
        rw [Change.make, entered, Change.answer, ended, same]
        simp [Change.concerns, made, Except.map, bne, Bool.beq_comm]
      · cases named
  | remove pack version =>
      obtain passed | ⟨name, named, -⟩ := passes
      · obtain ⟨done, ended⟩ := exists_of_isOk_map passed
        have dropped := entries_remove (s := s) (by rw [ended]; rfl)
        rw [Change.make, dropped, made_of_not_isAdd rfl]
        simp [Change.concerns, bne, Bool.beq_comm]
      · cases named
  | removeByName name =>
      rw [Change.make, entries_removeByName passes, made_of_not_isAdd rfl]
      simp

theorem toList_filter {α : Type} (p : α → Bool) (x : Option α) :
    (x.filter p).toList = x.toList.filter p := by
  cases x with
  | none => rfl
  | some x => by_cases holds : p x <;> simp [holds]

/-- The whole replay: what no change was about is still there, and behind it stand the entries of
the last adds. -/
theorem entries_after (passes : s.LetsPass changes) :
    (s.after changes).entries =
      s.entries.filter (fun e => !(s.told changes).any (·.1.concerns e.pack.name)) ++
        lastAdds (s.told changes) := by
  induction changes generalizing s with
  | nil => simp [after, told, lastAdds]
  | cons c later ih =>
      obtain ⟨first, rest⟩ := passes
      have run : s.after (c :: later) = (c.make s).after later := rfl
      have kept (e : Entry) : (!(((c.make s).told later).any (·.1.concerns e.pack.name)) &&
          !c.concerns e.pack.name) =
          !((s.told (c :: later)).any (·.1.concerns e.pack.name)) := by
        rw [told, List.any_cons, Bool.not_or, Bool.and_comm]
      rw [run, ih rest, entries_make first, List.filter_append, List.filter_filter,
        List.append_assoc]
      simp only [kept, told, lastAdds, toList_filter]

/-- An entry of the last adds was made by one of the changes, which is about its name. -/
theorem concerned_of_mem_lastAdds {e : Entry} (among : e ∈ lastAdds (s.told changes)) :
    (s.told changes).any (·.1.concerns e.pack.name) = true := by
  induction changes generalizing s with
  | nil => simp [told, lastAdds] at among
  | cons c later ih =>
      simp only [told, lastAdds, List.mem_append, Option.mem_toList,
        Option.filter_eq_some_iff] at among
      simp only [told, List.any_cons, Bool.or_eq_true]
      rcases among with ⟨came, -⟩ | rest
      · exact .inl (concerns_of_made came)
      · exact .inr (ih rest)

/-- No name has two last adds: a later change about the name of an entry takes it out. -/
theorem nodup_lastAdds (s : Selection) (changes : List Change) :
    ((lastAdds (s.told changes)).map (·.pack.name)).Nodup := by
  induction changes generalizing s with
  | nil => simp [told, lastAdds]
  | cons c later ih =>
      rw [told, lastAdds, List.map_append]
      cases first : (made (c.answer s)).filter _ with
      | none => simpa using ih (c.make s)
      | some e =>
          have last := (Option.filter_eq_some_iff.mp first).2
          refine List.nodup_cons.mpr ⟨fun again => ?_, ih (c.make s)⟩
          obtain ⟨other, among, same⟩ := List.mem_map.mp again
          have concerned := concerned_of_mem_lastAdds among
          rw [same] at concerned
          simp [concerned] at last

/-- A selection agrees with the list of its entries, if no name has two of them. -/
theorem agrees_entries (distinct : s.names.Nodup) : s.Agrees s.entries where
  entries := rfl
  names := rfl
  distinct := distinct
  get name e := by
    constructor
    · intro found
      obtain ⟨same, known⟩ := lookUp_eq_some found
      exact ⟨known, (Value.str.inj same).symm⟩
    · rintro ⟨known, rfl⟩
      exact congrArg Except.ok ((get?_eq_some_iff distinct).mpr ⟨known, rfl⟩)
  missing name := by
    have missing : s.lookUp (.str name) = .ok none ↔ s.get? name = none :=
      ⟨Except.ok.inj, congrArg Except.ok⟩
    simp [missing, get?]
  length := rfl
  isEmpty := by simp [isEmpty]

theorem after_concat (s : Selection) (changes : List Change) (c : Change) :
    s.after (changes ++ [c]) = c.make (s.after changes) := by
  simp [after]

/-- What a selection holds that began with nothing selected is what its last adds made, whatever
way it is asked. A version that is selected next stands at the end, and what is deselected under a
name that nothing is selected under leaves all entries as they are. -/
theorem agrees_lastAdds (empty : s.entries = []) (passes : s.LetsPass changes) :
    (s.after changes).Agrees (lastAdds (s.told changes)) ∧
      (∀ pack version indexed,
        (Change.add pack version indexed).Passes (s.after changes) →
        (s.after (changes ++ [.add pack version indexed])).entries =
          (s.after changes).entries.filter (·.pack.name != pack.name) ++
            [⟨pack, version, indexed⟩]) ∧
      ∀ c : Change, c.isAdd = false → c.Passes (s.after changes) →
        (∀ name ∈ (s.after changes).names, c.concerns name = false) →
        (s.after (changes ++ [c])).entries = (s.after changes).entries := by
  have replayed : (s.after changes).entries = lastAdds (s.told changes) := by
    simp [entries_after passes, empty]
  refine ⟨?_, ?_, ?_⟩
  · have distinct : (s.after changes).names.Nodup := by
      rw [names, replayed]
      exact nodup_lastAdds s changes
    rw [← replayed]
    exact agrees_entries distinct
  · intro pack version indexed next
    obtain passed | ⟨name, named, -⟩ := next
    · obtain ⟨e, ended⟩ := exists_of_isOk_map passed
      rw [after_concat, Change.make, entries_add (by rw [ended]; rfl)]
    · cases named
  · intro c kind next absent
    have spared : ∀ e ∈ (s.after changes).entries, (!c.concerns e.pack.name) = true := by
      intro e among
      simp [absent e.pack.name (List.mem_map_of_mem among)]
    rw [after_concat, entries_make next, made_of_not_isAdd kind, List.filter_eq_self.mpr spared]
    simp

/-- A selection with a page that shows a name, one that keeps its mark of another name, and a
listener that notes what it hears. -/
def replayed : Selection where
  store := ⟨List.replicate 4
    (.ofBase { addonId := .text "a", fileId := .text "f", fileName := "a.jar" })⟩
  pages := [
    { marked := ["Beta"] },
    { refusal := fun _ name =>
        if name = "Fixed" then some (.raised "RuntimeError" "page failed") else none }]
  listeners := [{ note := fun empty size => some (.changed .null empty size) }]

/-- A name is selected once more, another one is dropped by the text of it, one is deselected that
was never there, and one is given that cannot be looked up. -/
def replayedChanges : List Change :=
  [.add (contestedPack "Alpha") 0 (.bool false), .add (contestedPack "Beta") 1 (.bool true),
    .add (contestedPack "Alpha") 2 (.bool false), .remove (contestedPack "Gamma") 3,
    .removeByName (.list []), .add (contestedPack "Delta") 3 (.bool false),
    .removeByName (.str "Beta")]

/-- The last adds are those of the second version of one name and of the pack selected later. -/
theorem agrees_lastAdds_replayed :
    (replayed.entries = [] ∧ replayed.LetsPass replayedChanges) ∧
      (replayed.after replayedChanges).Agrees (lastAdds (replayed.told replayedChanges)) ∧
      (lastAdds (replayed.told replayedChanges)).map (fun e => (e.pack.name, e.version)) =
        [("Alpha", 2), ("Delta", 3)] := by
  have passes : replayed.LetsPass replayedChanges :=
    ⟨.inl rfl, .inl rfl, .inl rfl, .inl rfl, .inr ⟨_, rfl, rfl⟩, .inl rfl, .inl rfl, trivial⟩
  exact ⟨⟨rfl, passes⟩, (agrees_lastAdds rfl passes).1, by decide⟩

end Selection

end AddonPicker
