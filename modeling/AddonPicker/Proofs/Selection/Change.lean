import AddonPicker.Proofs.Terms

/-!
# Changes of the selection

What deselecting and selecting a pack do to the entries, the versions and the pages, on the terms
on which the pages and the listeners take part. As long as these let it pass, a change always comes
to its end, and besides this it only adds to the journal what is no news.
-/

namespace AddonPicker

namespace Selection

/-- The selection once a pack is deselected. -/
def without (pack : Pack) (version : VersionId) (s : Selection) : Selection :=
  let store := s.store.flag version false
  { s with
    store := match s.get? pack.name with
      | some previous => store.flag previous.version false
      | none => store
    entries := s.entries.filter (·.pack.name != pack.name)
    pages := s.pages.map (·.unmark pack.name) }

/-- The selection once a version of a pack is selected. -/
def having (pack : Pack) (version : VersionId) (indexed : Value) (s : Selection) : Selection :=
  let s := s.without pack version
  { s with
    store := s.store.flag version true
    entries := s.entries ++ [{ pack, version, indexed }] }

/-- The selection once the entry under a name is dropped, if there is one. -/
def withoutName (name : Value) (s : Selection) : Selection :=
  match s.lookUp name with
  | .ok (some e) => s.without e.pack e.version
  | _ => s

/-- The selection once the entries under some names are dropped, one name after the other. -/
def withoutNames (names : List Value) (s : Selection) : Selection :=
  names.foldl (fun s name => s.withoutName name) s

/-- Without an entry under the name of a pack, the entries stay as they are. -/
theorem without_of_none {pack : Pack} {s : Selection} (unknown : s.get? pack.name = none)
    (version : VersionId) :
    s.without pack version = { s with
      store := s.store.flag version false
      pages := s.pages.map (·.unmark pack.name) } := by
  have kept : s.entries.filter (·.pack.name != pack.name) = s.entries := by
    apply List.filter_eq_self.mpr
    intro e among
    have other := List.find?_eq_none.mp unknown e among
    simpa using other
  simp only [without, unknown, kept]

/-- The entry under the name of a pack is dropped, and its version is unselected as well. -/
theorem without_of_some {pack : Pack} {s : Selection} {previous : Entry}
    (known : s.get? pack.name = some previous) (version : VersionId) :
    s.without pack version = { s with
      store := (s.store.flag version false).flag previous.version false
      entries := s.entries.filter (·.pack.name != pack.name)
      pages := s.pages.map (·.unmark pack.name) } := by
  simp only [without, known]

/-- What deselecting a pack does between the pages and the listeners. -/
def drop (pack : Pack) (version : VersionId) : Act Selection Unit := do
  flag version false
  if let some previous := (← get).get? pack.name then
    modify fun s => { s with entries := s.entries.filter (·.pack.name != pack.name) }
    flag previous.version false
    Journaled.say .debug ("Deselected " ++ pack.name)

theorem remove_eq (pack : Pack) (version : VersionId) :
    remove pack version = (do clearMarks pack.name; drop pack version; notify) := by
  rw [remove, drop]
  simp only [bind_assoc]
  refine bind_congr fun _ => bind_congr fun _ => bind_congr fun s => ?_
  cases s.get? pack.name <;> simp

/-- What selecting a version of a pack does between the removal and the listeners. -/
def enter (pack : Pack) (version : VersionId) (indexed : Value) : Act Selection Unit := do
  flag version true
  modify fun s => { s with entries := s.entries ++ [{ pack, version, indexed }] }
  let file := ((← get).store.value version Version.fileNameField).text
  Journaled.say .debug
    ("Selected " ++ pack.name ++ " (" ++ file ++ ", indexed=" ++ indexed.text ++ ")")

theorem add_eq (pack : Pack) (version : VersionId) (indexed : Value) :
    add pack version indexed = (do
      remove pack version
      enter pack version indexed
      notify
      return { pack, version, indexed }) := by
  rw [add, enter]
  simp only [bind_assoc]

open Act

variable {t : Terms} {s : Selection}

theorem meets_flag (id : VersionId) (selected : Bool) :
    Meets t (flag id selected) (.ok ()) s { s with store := s.store.flag id selected } :=
  meets_modify fun _ => rfl

/-- Clearing a mark on a page. -/
theorem meets_clearPage (on : ∀ p ∈ s.pages, p.On t) (name : String) (position : Nat) :
    Meets t (clearPage name position) (.ok ()) s
      { s with pages := s.pages.modify position (·.unmark name) } := by
  apply meets_get_bind
  intro j
  dsimp only
  cases found : s.pages[position]? with
  | none =>
      have outside : s.pages.length ≤ position := List.getElem?_eq_none_iff.mp found
      have same : s.pages.modify position (·.unmark name) = s.pages :=
        List.modify_eq_self outside
      rw [same]
      exact meets_pure ()
  | some p =>
      have on := on p (List.mem_of_getElem? found)
      have cleared : Meets t (get >>= fun now : Selection => do
          Act.failOn (p.refusal now.journal.events name)
          modify fun s => { s with pages := s.pages.modify position (·.unmark name) }) (.ok ()) s
          { s with pages := s.pages.modify position (·.unmark name) } := by
        apply meets_get_bind
        intro j
        have passes := on.refusal.imp_right (· j.events name)
        exact (meets_failOn passes).bind (f := fun _ => _) (meets_modify fun _ => rfl)
      dsimp only
      cases noted : p.note name with
      | none => exact cleared
      | some e => exact (meets_note (on.note name e noted)).bind (f := fun _ => _) cleared

theorem on_unmark {p : Page} (on : p.On t) (name : String) : (p.unmark name).On t :=
  ⟨on.note, on.refusal⟩

theorem isCalm_unmark {p : Page} (calm : p.IsCalm) (name : String) : (p.unmark name).IsCalm :=
  ⟨calm.note, calm.refusal⟩

/-- A member of a list that was changed at a position is as before or changed. -/
theorem exists_of_mem_modify {α : Type} {f : α → α} {xs : List α} {position : Nat} {x : α}
    (among : x ∈ xs.modify position f) : ∃ y ∈ xs, x = y ∨ x = f y := by
  obtain ⟨i, inside, rfl⟩ := List.mem_iff_getElem.mp among
  have before : i < xs.length := by
    rw [List.length_modify] at inside
    exact inside
  refine ⟨xs[i], List.getElem_mem before, ?_⟩
  rw [List.getElem_modify]
  split
  · exact .inr rfl
  · exact .inl rfl

/-- Changing pages at a position leaves alone what the change does not touch. -/
theorem map_modify_pages {α : Type} (field : Page → α) {f : Page → Page}
    (same : ∀ p, field (f p) = field p) (position : Nat) (pages : List Page) :
    (pages.modify position f).map field = pages.map field := by
  refine List.ext_getElem? fun i => ?_
  rw [List.getElem?_map, List.getElem?_map, List.getElem?_modify]
  cases pages[i]? with
  | none => rfl
  | some p =>
      dsimp only [Option.map_some]
      split
      · exact congrArg some (same p)
      · rfl

theorem on_modify_unmark {pages : List Page} (on : ∀ p ∈ pages, p.On t) (name : String)
    (position : Nat) : ∀ p ∈ pages.modify position (·.unmark name), p.On t := by
  intro p among
  obtain ⟨before, known, rfl | rfl⟩ := exists_of_mem_modify among
  · exact on _ known
  · exact on_unmark (on before known) name

/-- Clearing marks page by page. -/
theorem meets_forM_clearPage (name : String) (positions : List Nat)
    (on : ∀ p ∈ s.pages, p.On t) :
    Meets t (positions.forM (clearPage name)) (.ok ()) s
      { s with pages :=
          positions.foldl (fun pages i => pages.modify i (·.unmark name)) s.pages } := by
  induction positions generalizing s with
  | nil => exact meets_pure ()
  | cons position later ih =>
      have rest := ih (s := { s with pages := s.pages.modify position (·.unmark name) })
        (on_modify_unmark on name position)
      exact (meets_clearPage on name position).bind (f := fun _ => later.forM _) rest

theorem getElem?_foldl_modify_range {α : Type} (f : α → α) (xs : List α) (n i : Nat) :
    ((List.range n).foldl (fun xs i => xs.modify i f) xs)[i]? =
      if i < n then xs[i]?.map f else xs[i]? := by
  induction n with
  | zero => simp
  | succ n ih =>
      rw [List.range_succ, List.foldl_append]
      show (List.modify _ n f)[i]? = _
      rw [List.getElem?_modify, ih]
      by_cases last : n = i
      · subst last
        simp
      · have same : i < n + 1 ↔ i < n := by omega
        simp [last, same]

/-- Changing a list position by position changes every member. -/
theorem foldl_modify_range {α : Type} (f : α → α) (xs : List α) :
    (List.range xs.length).foldl (fun xs i => xs.modify i f) xs = xs.map f := by
  apply List.ext_getElem?
  intro i
  rw [getElem?_foldl_modify_range, List.getElem?_map]
  split
  · rfl
  · rename_i outside
    rw [List.getElem?_eq_none (by omega)]
    rfl

/-- Clearing the marks of a name clears them on every page. -/
theorem meets_clearMarks (on : ∀ p ∈ s.pages, p.On t) (name : String) :
    Meets t (clearMarks name) (.ok ()) s { s with pages := s.pages.map (·.unmark name) } := by
  apply meets_get_bind
  intro j
  have cleared := meets_forM_clearPage name (List.range s.pages.length) on
  rw [foldl_modify_range] at cleared
  exact cleared

/-- Telling listeners. -/
theorem meets_forM_tell (listeners : List Listener) (on : ∀ l ∈ listeners, l.On t)
    (empty : Bool) (size : Nat) :
    Meets t (listeners.forM fun l => do
      if let some e := l.note empty size then
        Journaled.note e
      Act.failOn (l.refusal (← get).journal.events empty)) (.ok ()) s s := by
  induction listeners with
  | nil => exact meets_pure ()
  | cons l later ih =>
      have own := on l List.mem_cons_self
      have heard : Meets t (get >>= fun now : Selection =>
          Act.failOn (l.refusal now.journal.events empty)) (.ok ()) s s :=
        meets_get_bind fun j => meets_failOn (own.refusal.imp_right (· j.events empty))
      have told : Meets t (do
          if let some e := l.note empty size then
            Journaled.note e
          Act.failOn (l.refusal (← get).journal.events empty)) (.ok ()) s s := by
        cases noted : l.note empty size with
        | none => exact heard
        | some e => exact (meets_note (own.note empty size e noted)).bind (f := fun _ => _) heard
      exact told.bind (f := fun _ => later.forM _)
        (ih fun l among => on l (List.mem_cons_of_mem _ among))

theorem meets_notify (on : ∀ l ∈ s.listeners, l.On t) : Meets t notify (.ok ()) s s :=
  meets_get_bind fun _ => meets_forM_tell s.listeners on s.isEmpty s.entries.length

theorem on_without (on : s.On t) (pack : Pack) (version : VersionId) :
    (s.without pack version).On t := by
  refine ⟨fun p among => ?_, on.listeners⟩
  obtain ⟨p, known, rfl⟩ := List.mem_map.mp among
  exact on_unmark (on.pages p known) pack.name

theorem on_having (on : s.On t) (pack : Pack) (version : VersionId) (indexed : Value) :
    (s.having pack version indexed).On t :=
  ⟨(on_without on pack version).pages, on.listeners⟩

theorem isCalm_without (calm : s.IsCalm) (pack : Pack) (version : VersionId) :
    (s.without pack version).IsCalm := by
  refine ⟨fun p among => ?_, calm.listeners⟩
  obtain ⟨p, known, rfl⟩ := List.mem_map.mp among
  exact isCalm_unmark (calm.pages p known) pack.name

theorem isCalm_having (calm : s.IsCalm) (pack : Pack) (version : VersionId) (indexed : Value) :
    (s.having pack version indexed).IsCalm :=
  ⟨(isCalm_without calm pack version).pages, calm.listeners⟩

/-- With the marks of its name gone, a pack is deselected. -/
theorem meets_drop (pack : Pack) (version : VersionId) :
    Meets t (drop pack version) (.ok ()) { s with pages := s.pages.map (·.unmark pack.name) }
      (s.without pack version) := by
  refine (meets_flag version false).bind ?_
  apply meets_get_bind
  intro j
  generalize seen : Selection.get? _ pack.name = found
  have known : s.get? pack.name = found := seen
  cases found with
  | none =>
      rw [without_of_none known]
      exact meets_pure ()
  | some previous =>
      rw [without_of_some known]
      have dropped : Meets t (modify fun s : Selection => { s with
          entries := s.entries.filter (·.pack.name != pack.name) }) (.ok ())
          { s with
            store := s.store.flag version false
            pages := s.pages.map (·.unmark pack.name) }
          { s with
            store := s.store.flag version false
            entries := s.entries.filter (·.pack.name != pack.name)
            pages := s.pages.map (·.unmark pack.name) } := meets_modify fun _ => rfl
      exact dropped.bind ((meets_flag previous.version false).bind (meets_say .debug _))

/-- What deselecting a pack comes to. -/
theorem meets_remove (on : s.On t) (pack : Pack) (version : VersionId) :
    Meets t (remove pack version) (.ok ()) s (s.without pack version) := by
  have notified : Meets t notify (.ok ()) (s.without pack version) (s.without pack version) :=
    meets_notify on.listeners
  rw [remove_eq]
  exact (meets_clearMarks on.pages pack.name).bind ((meets_drop pack version).bind notified)

/-- Once a pack is deselected, a version of it is selected. -/
theorem meets_enter (pack : Pack) (version : VersionId) (indexed : Value) :
    Meets t (enter pack version indexed) (.ok ()) (s.without pack version)
      (s.having pack version indexed) := by
  have entered : Meets t (modify fun s : Selection => { s with
      entries := s.entries ++ [{ pack, version, indexed }] }) (.ok ())
      { s.without pack version with store := (s.without pack version).store.flag version true }
      (s.having pack version indexed) := meets_modify fun _ => rfl
  refine (meets_flag version true).bind (entered.bind ?_)
  apply meets_get_bind
  intro j
  exact meets_say .debug _

/-- What selecting a version of a pack comes to. -/
theorem meets_add (on : s.On t) (pack : Pack) (version : VersionId) (indexed : Value) :
    Meets t (add pack version indexed) (.ok { pack, version, indexed }) s
      (s.having pack version indexed) := by
  have notified : Meets t notify (.ok ()) (s.having pack version indexed)
      (s.having pack version indexed) := meets_notify on.listeners
  rw [add_eq]
  exact (meets_remove on pack version).bind ((meets_enter pack version indexed).bind
    (notified.bind (meets_pure _)))

/-- Deselecting a pack comes to its end. -/
theorem does_remove (calm : s.IsCalm) (pack : Pack) (version : VersionId) :
    Does (remove pack version) (.ok ()) [] s (s.without pack version) :=
  (meets_remove calm.on pack version).does

/-- Selecting a version of a pack comes to its end. -/
theorem does_add (calm : s.IsCalm) (pack : Pack) (version : VersionId) (indexed : Value) :
    Does (add pack version indexed) (.ok { pack, version, indexed }) [] s
      (s.having pack version indexed) :=
  (meets_add calm.on pack version indexed).does

/-- A name that can be looked up has an entry or has none. -/
theorem lookUp_of_isHashable (s : Selection) {name : Value} (hashable : name.isHashable = true) :
    ∃ found, s.lookUp name = .ok found := by
  cases name with
  | str name => exact ⟨_, rfl⟩
  | _ => exact ⟨none, by rw [lookUp, if_pos hashable]; exact nofun⟩

/-- What dropping the entry under a name comes to, if the name can be looked up. -/
theorem meets_removeByName (on : s.On t) {name : Value} (hashable : name.isHashable = true) :
    Meets t (removeByName name) (.ok ()) s (s.withoutName name) := by
  apply meets_get_bind
  intro j
  have seen : (Journaled.setJournal j s).lookUp name = s.lookUp name := by
    cases name <;> rfl
  obtain ⟨found, looked⟩ := s.lookUp_of_isHashable hashable
  have checked : Meets t (check (.ok found)) (.ok found) s s := meets_pure found
  rw [seen, looked, withoutName, looked]
  cases found with
  | none => exact checked.bind (meets_pure ())
  | some e => exact checked.bind (meets_remove on e.pack e.version)

end Selection

end AddonPicker
