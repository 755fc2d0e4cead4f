import Mathlib
import AddonPicker.Proofs.Dialog.Abiding
import AddonPicker.Proofs.Dialog.Heard
import AddonPicker.Proofs.Dialog.Merges
import AddonPicker.Proofs.Dialog.Subject
import AddonPicker.Proofs.Run.Credit
import AddonPicker.Proofs.Selection.Accounted
import AddonPicker.Proofs.Selection.Requirers

/-!
# Credit in reviews

What a check has found comes into the selection with a record of the packs that required it in this
check, and the record stays for good. Reviews may be declined and confirmations requested again, and
the selection may change meanwhile: as long as an entry that came by a check is selected, its row
names all those packs that are selected as well.

The record is not added to. What is selected already is not asked for again, so a pack that joins
the selection after the check is not named, whatever it requires.
-/

namespace AddonPicker

/-- A run has found the pack of an entry, and the ids of all packs that required it in the run are
among some ids. -/
structure Run.Finds (r : Run DialogHandler) (e : Entry) (ids : List AddonId) : Prop where
  succeeded : r.state = .succeeded
  found : ∃ d ∈ r.dependencies, d.pack = e.pack
  requirers : ∀ n ∈ r.selected ++ r.dependencies, n.requires (.ofPack e.pack) = true →
    n.pack.addonId ∈ ids

/-- The row of an entry in a review names all entries of a selection whose ids are among some
ids. -/
def ReviewBox.Names (box : ReviewBox) (sel : Selection) (e : Entry) (ids : List AddonId) : Prop :=
  ∃ row names, box.row? (.str e.pack.name) = some row ∧ row.requiredBy = .strings names ∧
    ∀ e' ∈ sel.entries, e'.pack.addonId ∈ ids → e'.pack.name ∈ names

/-- The row of every indexed entry names all selected packs that require it. -/
def ReviewBox.NamesRequirers (box : ReviewBox) (sel : Selection) : Prop :=
  ∀ e ∈ sel.entries, e.indexed = .bool true → ∀ n ∈ sel.choices,
    n.requires (.ofPack e.pack) = true → ∃ row names,
      box.row? (.str e.pack.name) = some row ∧ row.requiredBy = .strings names ∧
        n.pack.name ∈ names

namespace Session

open Act

/-- All runs of a dialog record who requires what they find, under the keys of the packs. -/
def GivesCredit (s : Session) : Prop :=
  s.Abides (fun _ scope selected => (·.Candid scope selected)) fun _ _ selected =>
    (·.Credits selected)

/-- If a step answers a run with a pack, it is the one that the run asks for. -/
def HearsTruth (s : Session) (i : Nat) (m : RunMove) : Prop :=
  match s.runs[i]? with
  | some r => m.IsTruthful r
  | none => True

instance (s : Session) (i : Nat) : DecidablePred (s.HearsTruth i) := fun m => by
  unfold HearsTruth
  split <;> infer_instance

theorem sustained_givesCredit : Sustained (fun _ => True) HearsTruth GivesCredit := by
  have sustained := sustained_abides
    (A := fun _ scope selected => (·.Candid scope selected))
    (B := fun _ _ selected => (·.Credits selected)) (fun _ _ _ => trivial)
    fun _ _ _ => InquiryPhase.lasting_candid
  exact { sustained with
    move := fun s i m truthful => sustained.move s i m fun r known own => by
      rw [HearsTruth, known] at truthful
      exact truthful.leads own.follows.inquiry }

/-- An entry comes into the selection by the merge of what a run has found. -/
structure Brings (r : Run DialogHandler) (e : Entry) (s u o : Session) : Prop where
  merges : ∃ c i, Merges c i s u o ∧ u.runs[i]? = some r
  new : e ∉ s.selection.entries
  stands : e ∈ u.selection.entries

variable {s t u o : Session} {c i : Nat} {r : Run DialogHandler} {e : Entry}

/-- What a run brings is recorded to be required by all packs that required it in the run. -/
theorem Brings.exists_record (brings : Brings r e s u o) (gives : o.GivesCredit)
    {P : Nat → Held → Prop} (heardOf : o.HeardOf P) :
    ∃ ids, r.Finds e ids ∧ u.selection.store.HasAt e.version (Edited.Records ids) ∧
      o.selection.store.HasAt e.version (Edited.Records ids) := by
  obtain ⟨c, i, merges, known⟩ := brings.merges
  have known' : o.runs[i]? = some r := merges.runs ▸ known
  have own : ∀ d ∈ r.dependencies, d.shared = none :=
    fun d among => (heardOf i r known').own (List.mem_append_right _ among)
  obtain ⟨d, among, same, records⟩ : e.StandsFor r.dependencies u.selection.store :=
    (merges.growsBy known own e brings.stands).resolve_left brings.new
  obtain ⟨succeeded, all, credits⟩ := (gives i r known').closure among
  refine ⟨_, ⟨succeeded, ⟨d, among, same⟩, ?_⟩, records,
    merges.hasAt (Edited.lasting_records _) records⟩
  intro n takesPart requires
  rw [all] at among takesPart
  rw [← same] at requires
  exact credits.mem_requiredBy among takesPart requires

theorem Brings.mem_runs (brings : Brings r e s u o) : r ∈ o.runs := by
  obtain ⟨c, i, merges, known⟩ := brings.merges
  rw [merges.runs] at known
  exact List.mem_of_getElem? known

/-- An entry came to a dialog by what a run had found: by the merge over which the review of a
confirmation opens after some events, or by an earlier one. -/
def CameBy (b : Session) (events : List DialogEvent) (c : Nat) (t : Session)
    (r : Run DialogHandler) (e : Entry) : Prop :=
  Brings r e (b.through events) t ((b.through events).resume c) ∨
    ∃ earlier event later u, events = earlier ++ event :: later ∧
      Brings r e (b.through earlier) u ((b.through earlier).react event)

section

variable {b : Session} {events : List DialogEvent} (unchecked : b.runs = [])

include unchecked

/-- What was recorded when an entry came is recorded where the review opens. -/
theorem CameBy.exists_record (came : b.CameBy events c t r e)
    (truthful : b.Admits (IsFit (fun _ => True) HearsTruth) events)
    (opens : OpensOn c (b.through events) t) :
    ∃ ids, r.Finds e ids ∧ t.selection.store.HasAt e.version (Edited.Records ids) := by
  have gives {earlier : List DialogEvent}
      (truthful : b.Admits (IsFit (fun _ => True) HearsTruth) earlier) :
      (b.through earlier).GivesCredit :=
    sustained_givesCredit.through truthful (abides_of_unchecked unchecked)
  rcases came with now | ⟨earlier, event, later, u, rfl, before⟩
  · -- The merge has just been made, and nothing comes between it and the review.
    obtain ⟨ids, finds, records, -⟩ :=
      now.exists_record (sustained_givesCredit.resume c (gives truthful))
        (sustained_heardOf.resume c (heardOf_through unchecked events))
    exact ⟨ids, finds, records⟩
  · obtain ⟨admitted, here, -⟩ := admits_append.mp truthful
    have heardOf := heardOf_through unchecked (earlier ++ [event])
    rw [through_append] at heardOf
    obtain ⟨ids, finds, -, records⟩ :=
      before.exists_record (sustained_givesCredit.react here (gives admitted)) heardOf
    refine ⟨ids, finds, ?_⟩
    -- What was recorded then has lasted, and the merge before this review only adds versions.
    have lasting := Edited.lasting_records ids
    have stays := has_through (Selection.lasting_hasAt e.version lasting) later records
    obtain ⟨i, j, taken⟩ := opens.takes
    rw [through_append] at taken
    rw [taken]
    exact Selection.hasAt_takenInAll lasting stays _

/-- The run by which an entry came was made of what was selected at some time before. -/
theorem CameBy.exists_choices (came : b.CameBy events c t r e) :
    ∃ earlier later, events = earlier ++ later ∧ r.selected = (b.through earlier).choices := by
  rcases came with here | ⟨before, event, after, u, rfl, there⟩
  · exact ((areAbout_through unchecked events).resume (hadSelected_through b events) c r
      here.mem_runs).2
  · have about := (areAbout_through unchecked before).react (hadSelected_through b before) event
    obtain ⟨-, earlier, later, rfl, selected⟩ := about r there.mem_runs
    exact ⟨earlier, later ++ event :: after, by rw [List.append_assoc], selected⟩

/-- Whatever has happened to a dialog whose catalogues answer with the packs that they are asked
for, when a review opens over selected packs of different ids, the row of each entry that came by a
check, now or earlier, names all selected packs that required the entry in that check. The check was
made of what was selected at some time before. -/
theorem names_through (distinct : b.selection.names.Nodup)
    (truthful : b.Admits (IsFit (fun _ => True) HearsTruth) events)
    (opened : ((b.through events).resume c).reviews ≠ (b.through events).reviews) :
    ∃ t box, OpensOn c (b.through events) t ∧
      t.selection.review t.naming t.emptyBox = (.ok (), box) ∧
      (∀ i, (b.through events).IsChecking c i →
        Merges c i (b.through events) t ((b.through events).resume c)) ∧
      (t.selection.HasOwnIds → ∀ e ∈ t.selection.entries, ∀ r, b.CameBy events c t r e →
        (∃ ids, r.Finds e ids ∧ box.Names t.selection e ids) ∧
          ∃ earlier later, events = earlier ++ later ∧
            r.selected = (b.through earlier).choices) := by
  have lasting := Selection.lasting_nodup
  obtain ⟨t, opens, nodup, merges⟩ := exists_opensOn_of_isChecking
    (fun s i => (upheld_of_lasting lasting).merge _ s) (tended_of_lasting lasting) id
    (has_through lasting events distinct) opened
  have presented : (openReview.perform t).2.reviews ≠ t.reviews := by
    rw [opens.goes, reviews_settle, ← opens.first] at opened
    exact opened
  obtain ⟨box, presents⟩ := exists_presents presented
  refine ⟨t, box, opens, presents, fun i checking => (merges i checking).1,
    fun own e stands r came => ?_⟩
  obtain ⟨ids, finds, v, stored, plain, recorded⟩ := came.exists_record unchecked truthful opens
  obtain ⟨row, names, listed, shown, named⟩ :=
    Selection.exists_row_naming nodup own rfl presents stands stored plain
  refine ⟨⟨ids, finds, row, names, listed, shown, fun e' selected linked => ?_⟩,
    came.exists_choices unchecked⟩
  exact named e' selected (recorded linked)

end

/-- A mod that requires oil. -/
def burner (id : Int) (name : String) : Choice where
  pack := { addonId := .number id, name, provider := .modrinth }
  version := {
    addonId := .number id, fileId := .number (10 * id), fileName := name ++ ".jar"
    dependencies := [{ addonId := .number 3 }] }

def oil : Choice where
  pack := { addonId := .number 3, name := "Oil", provider := .modrinth }
  version := { addonId := .number 3, fileId := .number 30, fileName := "oil.jar" }

/-- A dialog to pick burners in, the reviews of which are declined. -/
def chandlery : Session :=
  { lanterns with
    reviewPlan := fun _ => { waits := true, approves := false }
    selection := {
      store := ⟨[.ofBase (burner 1 "Lamp").version, .ofBase (burner 2 "Stove").version]⟩ } }

/-- A lamp is picked, and the check asks for what it requires. -/
def asked : List DialogEvent :=
  [.add (burner 1 "Lamp").pack 0 (.bool false), .request, .confirm 0 0 (.check .resume),
    .confirm 0 0 (.check (.move .begin))]

/-- The catalogue has it. -/
def oiled : List DialogEvent :=
  [.confirm 0 0 (.check (.move (.answerPack false (.ok (some oil.pack))))),
    .confirm 0 0 (.check (.move (.answerVersion false (.ok (some oil.version)))))]

/-- Nobody refuses anything in that dialog. -/
theorem chandlery_agrees (events : List DialogEvent) :
    (chandlery.through events).ui.IsPatient ∧ (chandlery.through events).selection.IsWilling := by
  have ready : chandlery.selection.IsReady := ⟨by decide, nofun, nofun⟩
  exact agrees_through ready (fun _ _ _ _ => rfl) events

/-- The rows of the review are sorted, which does not evaluate, so what it opens over is shown by
what the dialog has come to. -/
theorem isDue_oiled :
    let s := chandlery.through (asked ++ oiled)
    s.IsDue 0 0 ∧ s.surface.noted = false ∧ s.nextPlan.waits = true :=
  ⟨⟨by decide +kernel, by decide +kernel, by decide +kernel, by decide +kernel, by decide +kernel⟩,
    by decide +kernel, by decide +kernel⟩

/-- The dialog in which the user of that review waits, but for what the box shows. -/
def oilShown (box : ReviewBox) : Session :=
  (chandlery.through (asked ++ oiled)).presenting 0 0 box

def oilBox : ReviewBox :=
  (chandlery.through (asked ++ oiled)).boxAfter 0

theorem react_oiled :
    (chandlery.through (asked ++ oiled)).react (.confirm 0 0 (.check .resume)) =
      oilShown oilBox := by
  obtain ⟨patient, willing⟩ := chandlery_agrees (asked ++ oiled)
  obtain ⟨due, unnoted, waits⟩ := isDue_oiled
  rw [react_resume due.isReady]
  exact due.resume_eq patient willing unnoted waits

/-- The user declines. A stove is picked, and nothing has to be found for it. -/
def declined : List DialogEvent :=
  [.confirm 0 0 (.check .resume), .add (burner 2 "Stove").pack 1 (.bool false), .request,
    .confirm 1 1 (.check .resume), .confirm 1 1 (.check (.move .begin))]

/-- The lamp is checked, and then the stove with what is selected already. -/
def heated : List DialogEvent :=
  asked ++ oiled ++ .confirm 0 0 (.check .resume) :: declined

theorem through_heated : chandlery.through heated = (oilShown oilBox).through declined := by
  rw [heated, through_append, ← react_oiled, through, List.foldl_cons]
  rfl

theorem admits_heated : chandlery.Admits (IsFit (fun _ => True) HearsTruth) heated := by
  refine admits_append.mpr ⟨by decide +kernel, trivial, ?_⟩
  rw [react_oiled]
  decide +kernel

/-- Nothing is found for the stove. -/
theorem isDue_heated :
    let s := chandlery.through heated
    s.IsDue 1 1 ∧ (s.runDependencies 1).length = 0 ∧ s.selection.HasOwnIds := by
  intro s
  rw [show s = _ from through_heated]
  exact ⟨⟨by decide +kernel, by decide +kernel, by decide +kernel, by decide +kernel,
    by decide +kernel⟩, by decide +kernel, by decide +kernel⟩

/-- The second review opens over what is selected by then. -/
theorem exists_opensOn_heated :
    let s := chandlery.through heated
    ∃ t box j, OpensOn 1 s t ∧ t.selection = Journaled.setJournal j s.selection ∧
      t.selection.review t.naming t.emptyBox = (.ok (), box) ∧ t.runs = s.runs ∧
      (s.resume 1).reviews ≠ s.reviews := by
  intro s
  obtain ⟨patient, willing⟩ : s.ui.IsPatient ∧ s.selection.IsWilling := chandlery_agrees _
  obtain ⟨due, nothing, -⟩ : s.IsDue 1 1 ∧ (s.runDependencies 1).length = 0 ∧
    s.selection.HasOwnIds := isDue_heated
  obtain ⟨t, box, j, opens, taken, presents, same, opened⟩ := due.exists_opensOn patient willing
  rw [List.length_eq_zero_iff.mp nothing, Selection.takenInAll, List.foldl_nil] at taken
  exact ⟨t, box, j, opens, taken, presents, same, opened⟩

/-- Nothing is found that would be merged before the second review. -/
theorem Merges.exists_setJournal_heated {t o : Session}
    (merges : Merges 1 1 (chandlery.through heated) t o)
    (same : o.runs = (chandlery.through heated).runs) :
    ∃ j, t.selection = Journaled.setJournal j (chandlery.through heated).selection := by
  obtain ⟨j, taken⟩ := merges.takes (chandlery_agrees _).2
  rw [runDependencies_congr (merges.runs.trans same),
    List.length_eq_zero_iff.mp isDue_heated.2.1,
    Selection.takenInAll, List.foldl_nil] at taken
  exact ⟨j, taken⟩

def lampEntry : Entry := { pack := (burner 1 "Lamp").pack, version := 0 }

def oilEntry : Entry := { pack := oil.pack, version := 2, indexed := .bool true }

def stoveEntry : Entry := { pack := (burner 2 "Stove").pack, version := 1 }

theorem entries_oiled :
    let s := chandlery.through (asked ++ oiled)
    (s.selection.takenInAll (s.runDependencies 0)).entries = [lampEntry, oilEntry] := by
  cbv

theorem entries_heated :
    (chandlery.through heated).selection.entries = [lampEntry, oilEntry, stoveEntry] := by
  rw [through_heated]
  generalize oilBox = box
  cbv

/-- The oil came by the check of the lamp. -/
theorem exists_cameBy_heated (t : Session) : ∃ r, chandlery.CameBy heated 1 t r oilEntry ∧
    ∃ n ∈ r.selected, n.requires ⟨.modrinth, .number 3⟩ = true ∧ n.pack.addonId = .number 1 := by
  let s := chandlery.through (asked ++ oiled)
  obtain ⟨patient, willing⟩ : s.ui.IsPatient ∧ s.selection.IsWilling := chandlery_agrees _
  have due : s.IsDue 0 0 := isDue_oiled.1
  obtain ⟨_, _, _, opens, -, -, same, opened⟩ := due.exists_opensOn patient willing
  obtain ⟨u, merges⟩ := exists_merges (s := s) (i := 0) (by decide +kernel) opened
  have runs : u.runs = s.runs := merges.runs.trans (opens.runs.symm.trans same)
  obtain ⟨j, taken⟩ := merges.takes willing
  have stands : oilEntry ∈ u.selection.entries := by
    rw [taken, Selection.entries_setJournal, runDependencies_congr runs, entries_oiled]
    exact List.mem_cons_of_mem _ (List.mem_singleton_self _)
  have apart : ∀ e ∈ s.selection.entries, e.version ≠ 2 := by decide +kernel
  have requires : (s.runs[0]?.any fun r => r.selected.any fun n =>
      n.requires ⟨.modrinth, .number 3⟩ && n.pack.addonId == .number 1) = true := by
    decide +kernel
  obtain ⟨r, known, requires⟩ := (Option.any_eq_true _ _).mp requires
  obtain ⟨n, among, requires⟩ := List.any_eq_true.mp requires
  rw [Bool.and_eq_true, beq_iff_eq] at requires
  rw [← runs] at known
  rw [← react_resume (i := 0) due.isReady] at merges
  have brings : Brings r oilEntry s u (s.react (.confirm 0 0 (.check .resume))) :=
    { merges := ⟨0, 0, merges, known⟩
      new := fun before => apart oilEntry before rfl
      stands }
  exact ⟨r, .inr ⟨_, _, declined, u, rfl, brings⟩, n, among, requires⟩

/-- In the second review the lamp is still named for the oil. -/
theorem names_through_heated :
    let s := chandlery.through heated
    chandlery.runs = [] ∧ chandlery.selection.names.Nodup ∧
    chandlery.Admits (IsFit (fun _ => True) HearsTruth) heated ∧
    (s.resume 1).reviews ≠ s.reviews ∧
    ∃ t box, OpensOn 1 s t ∧ t.selection.review t.naming t.emptyBox = (.ok (), box) ∧
      t.selection.HasOwnIds ∧ oilEntry ∈ s.selection.entries ∧
      ∃ r, chandlery.CameBy heated 1 t r oilEntry ∧ ∃ row names,
        box.row? (.str "Oil") = some row ∧ row.requiredBy = .strings names ∧ "Lamp" ∈ names := by
  intro s
  have distinct : chandlery.selection.names.Nodup := by decide
  obtain ⟨u, -, -, opens', -, -, same, opened⟩ := exists_opensOn_heated
  obtain ⟨t, box, opens, presents, merges, named⟩ :=
    names_through rfl distinct admits_heated opened
  have checking : s.IsChecking 1 1 := by
    rw [show s = _ from through_heated]
    decide +kernel
  obtain ⟨j, taken⟩ := (merges 1 checking).exists_setJournal_heated (opens'.runs.symm.trans same)
  have entries : t.selection.entries = [lampEntry, oilEntry, stoveEntry] := by
    rw [taken, Selection.entries_setJournal, entries_heated]
  have own : t.selection.HasOwnIds := by
    rw [taken, Selection.hasOwnIds_setJournal]
    exact isDue_heated.2.2
  have stands : oilEntry ∈ t.selection.entries := by
    rw [entries]
    exact List.mem_cons_of_mem _ List.mem_cons_self
  obtain ⟨r, came, n, among, requires, id⟩ := exists_cameBy_heated t
  obtain ⟨⟨ids, finds, row, names, under, shown, all⟩, -⟩ := named own oilEntry stands r came
  have credited := finds.requirers n (List.mem_append_left _ among) requires
  have selected : lampEntry ∈ t.selection.entries := by
    rw [entries]
    exact List.mem_cons_self
  rw [id] at credited
  refine ⟨rfl, distinct, admits_heated, opened, t, box, opens, presents, own, ?_, r, came, row,
    names, under, shown, all lampEntry selected credited⟩
  rw [entries_heated]
  exact List.mem_cons_of_mem _ List.mem_cons_self

/-- A pack that requires an indexed entry is not named unless it is recorded. -/
theorem not_namesRequirers {t : Session} {sel : Selection} {j : Journal} {box : ReviewBox}
    (taken : t.selection = Journaled.setJournal j sel) (distinct : sel.names.Nodup)
    (presents : t.selection.review t.naming t.emptyBox = (.ok (), box))
    (neglects : ∃ e ∈ sel.entries, (e.indexed matches .bool true) = true ∧
      ∃ n ∈ sel.choices, n.requires (.ofPack e.pack) = true ∧
        ((sel.requirers (sel.store.value e.version Version.requiredByField)).toOption.any
          fun named => !named.contains n.pack.name) = true) :
    ¬ box.NamesRequirers t.selection := by
  obtain ⟨e, stands, indexed, n, selected, requires, neglected⟩ := neglects
  intro complete
  rw [taken] at complete presents
  rw [Selection.review_setJournal] at presents
  have indexed : e.indexed = .bool true := by
    split at indexed
    · assumption
    · exact nomatch indexed
  obtain ⟨row, names, under, shown, named⟩ := complete e stands indexed n selected requires
  obtain ⟨row', under', made⟩ := Selection.exists_row?_of_presents distinct rfl presents stands
  obtain rfl := Option.some.inj (under.symm.trans under')
  obtain ⟨-, names', listed, shown'⟩ := Selection.shows_of_row made
  have same : names.map Value.str = names'.map Value.str := Value.list.inj (shown.symm.trans shown')
  have unnamed : n.pack.name ∉ names' := by
    rw [listed] at neglected
    simpa [Except.toOption] using neglected
  have among : Value.str n.pack.name ∈ names'.map Value.str := same ▸ List.mem_map_of_mem named
  obtain ⟨name, recorded, word⟩ := List.mem_map.mp among
  exact unnamed (Value.str.inj word ▸ recorded)

/-- The oil is selected already when the stove is checked, so it is not asked for, and the stove is
not named for it. -/
theorem not_namesRequirers_heated :
    let s := chandlery.through heated
    chandlery.runs = [] ∧ chandlery.selection.names.Nodup ∧
    chandlery.Admits (IsFit (fun _ => True) HearsTruth) heated ∧
    (s.resume 1).reviews ≠ s.reviews ∧
    ∃ t box, OpensOn 1 s t ∧ t.selection.review t.naming t.emptyBox = (.ok (), box) ∧
      t.runs.map (·.state) = [.succeeded, .succeeded] ∧ t.selection.HasOwnIds ∧
      ¬ box.NamesRequirers t.selection := by
  intro s
  obtain ⟨t, box, j, opens, taken, presents, same, opened⟩ := exists_opensOn_heated
  have succeeded : s.runs.map (·.state) = [.succeeded, .succeeded] := by
    rw [show s = _ from through_heated]
    decide +kernel
  rw [← same] at succeeded
  have own : t.selection.HasOwnIds := by
    rw [taken, Selection.hasOwnIds_setJournal]
    exact isDue_heated.2.2
  rw [through_heated] at taken
  have incomplete := not_namesRequirers taken (by decide +kernel) presents (by decide +kernel)
  exact ⟨rfl, by decide, admits_heated, opened, t, box, opens, presents, succeeded, own, incomplete⟩

end Session

end AddonPicker
