import AddonPicker.Proofs.Base64
import AddonPicker.Proofs.Dialog.Lasting
import AddonPicker.Proofs.Selection.Rows

/-!
# The geometry of a window

Closing a dialog keeps the geometry of its window under one key of the settings and touches no other
setting. A dialog that comes up with these settings and this key gives its window that geometry.
-/

namespace AddonPicker

/-- The geometry that a window was given in an event, if it was given one. -/
def Event.geometry? : Event → Option (List UInt8)
  | .ui (.restoreGeometry bytes) => some bytes
  | _ => none

/-- The geometries that windows were given, as far as a journal shows them. -/
def Journal.geometries (j : Journal) : List (List UInt8) :=
  j.events.filterMap Event.geometry?

theorem Journal.geometries_note (e : Event) (j : Journal) :
    (j.note e).geometries = j.geometries ++ e.geometry?.toList := by
  cases given : e.geometry? <;> simp [geometries, note, List.filterMap_append, given]

namespace Session

open Act

variable {s t : Session} {key v : Value} {bytes : List UInt8}

/-! ### Settings -/

/-- The settings under other keys, in order. -/
def otherSettings (key : Value) (s : Session) : List (Value × Value) :=
  s.settings.filter fun kv => !kv.1.isSameMember key

theorem setting?_congr (same : t.settings = s.settings) (key : Value) :
    t.setting? key = s.setting? key := by
  rw [setting?, setting?, same]

/-- A setting with another value, if it is the one under the key. -/
def changed (key v : Value) (kv : Value × Value) : Value × Value :=
  if kv.1.isSameMember key then (kv.1, v) else kv

theorem changed_fst (key v : Value) (kv : Value × Value) : (changed key v kv).1 = kv.1 := by
  unfold changed
  split <;> rfl

theorem settings_keepSetting (key v : Value) (s : Session) :
    (keepSetting key v s).settings =
      if (s.setting? key).isSome then s.settings.map (changed key v)
      else s.settings ++ [(key, v)] := rfl

/-- What is kept under a key is found under it. -/
theorem setting?_keepSetting (self : key.isSameMember key = true) (v : Value) (s : Session) :
    (keepSetting key v s).setting? key = some v := by
  rw [setting?, settings_keepSetting]
  cases found : s.settings.find? (·.1.isSameMember key) with
  | none =>
      have new : s.setting? key = none := by rw [setting?, found, Option.map_none]
      simp [new, found, self]
  | some kv =>
      have known : s.setting? key = some kv.2 := by rw [setting?, found, Option.map_some]
      have same := List.find?_some found
      have moved : (s.settings.map (changed key v)).find? (·.1.isSameMember key) =
          some (kv.1, v) := by
        rw [List.find?_map]
        simp only [Function.comp_def, changed_fst, found, Option.map_some]
        exact congrArg some (if_pos same)
      simp [known, moved]

/-- Settings under other keys stay as they are, in the order that they have. -/
theorem otherSettings_keepSetting (self : key.isSameMember key = true) (v : Value) (s : Session) :
    (keepSetting key v s).otherSettings key = s.otherSettings key := by
  rw [otherSettings, settings_keepSetting]
  split
  · rw [List.filter_map]
    simp only [Function.comp_def, changed_fst]
    refine (List.map_congr_left fun kv among => ?_).trans (List.map_id _)
    have other := (List.mem_filter.mp among).2
    simp [changed] at other ⊢
    simp [other]
  · simp [otherSettings, self]

/-! ### Closing -/

/-- The key of the geometry can be one. A configuration without a key, or with an empty one, means
the key for the kind of resource. -/
theorem exists_geometryKey (keyed : s.config.geometrySaveKey = .null ∨
    ∃ text, s.config.geometrySaveKey = .str text) :
    ∃ text, s.geometryKey = .str text ∧ (Value.str text).isTrue = true := by
  have standard (kind : ResourceKind) : (Value.str kind.geometryKey).isTrue = true := by
    cases kind <;> rfl
  rw [geometryKey, Config.geometryKeyFor]
  split
  · rename_i used
    obtain none | ⟨text, set⟩ := keyed
    · rw [none] at used
      cases used
    · exact ⟨text, set, set ▸ used⟩
  · exact ⟨_, rfl, standard _⟩

/-- Close the dialog, with the selection accepted or not. -/
def close (accepted : Bool) : Act Session Unit :=
  if accepted then accept else reject

/-- The call of the user interface by which a dialog is closed. -/
def closing (accepted : Bool) : UiCall :=
  if accepted then .accept else .reject

theorem close_eq (accepted : Bool) :
    close accepted = saveGeometry >>= fun _ => callUi (closing accepted) := by
  cases accepted <;> rfl

/-- The user interface is asked for the geometry by a call. -/
theorem IsUnselected.askGeometry {ι : Type} {part : Session → ι} (unselected : IsUnselected part)
    (ui : Ui) : Leaves part (ui.saveGeometry : Act Session _) :=
  (unselected.call ui _).bind fun _ => leaves_get_bind fun _ => leaves_pure _

/-- What the user interface answers when it is asked for the geometry of the window. -/
def answer (s : Session) : Except Fault (List UInt8) :=
  ((s.ui.saveGeometry : Act Session (List UInt8)).perform s).1

/-- With the answer of the user interface, the geometry is kept under its key. -/
theorem settings_close {text : String} (keyed : s.geometryKey = .str text)
    (used : (Value.str text).isTrue = true) (answered : s.answer = .ok bytes) (accepted : Bool) :
    ((close accepted).perform s).2.settings =
      (keepSetting (.str text) (.str (String.ofList (Base64.encode bytes))) s).settings := by
  have unselected : IsUnselected settings := fun _ _ => rfl
  have asked := unselected.askGeometry s.ui s
  have called := unselected.callUi (closing accepted)
  have saved : (saveGeometry.perform s) = (.ok (), keepSetting (.str text)
      (.str (String.ofList (Base64.encode bytes)))
        ((s.ui.saveGeometry : Act Session (List UInt8)).perform s).2) := by
    rw [saveGeometry, perform_bind, perform_get]
    dsimp only
    rw [keyed, if_pos used, perform_bind, perform_get]
    dsimp only
    rw [perform_bind]
    rw [answer] at answered
    generalize (s.ui.saveGeometry : Act Session (List UInt8)).perform s = performed at answered
    obtain ⟨result, s'⟩ := performed
    cases answered
    rfl
  rw [close_eq, perform_bind, saved]
  dsimp only
  rw [called, settings_keepSetting, settings_keepSetting, asked, setting?_congr asked]

/-- A dialog that can be closed was answered. -/
theorem exists_answer {text : String} (keyed : s.geometryKey = .str text)
    (used : (Value.str text).isTrue = true) {accepted : Bool}
    (closed : ((close accepted).perform s).1 = .ok ()) : ∃ bytes, s.answer = .ok bytes := by
  rw [close_eq, perform_bind, saveGeometry, perform_bind, perform_get] at closed
  dsimp only at closed
  rw [keyed, if_pos used, perform_bind, perform_get] at closed
  dsimp only at closed
  rw [perform_bind] at closed
  rw [answer]
  generalize (s.ui.saveGeometry : Act Session (List UInt8)).perform s = performed at closed
  obtain ⟨result, s'⟩ := performed
  cases result with
  | ok bytes => exact ⟨bytes, rfl⟩
  | error f => cases closed

/-! ### Coming up again -/

/-- What a dialog does to come up before it gives its window a geometry. -/
def comeForth : Act Session Unit := do
  let s ← get
  onSelection (modify fun sel => { sel with listeners := sel.listeners ++ [confirmListener s.ui] })
  callUi (.setConfirmEnabled false)
  callUi (.setWindowTitle s.type.kind.dialogTitle)
  openPages

theorem openDialog_eq : openDialog = comeForth >>= fun _ => restoreGeometry := by
  simp only [openDialog, comeForth, bind_assoc]

/-- A kept geometry is given to the window. -/
theorem perform_restoreGeometry {text : String} (keyed : s.geometryKey = .str text)
    (used : (Value.str text).isTrue = true)
    (kept : s.setting? (.str text) = some (.str (String.ofList (Base64.encode bytes)))) :
    restoreGeometry.perform s = (callUi (.restoreGeometry bytes)).perform s := by
  rw [restoreGeometry, perform_bind, perform_get]
  dsimp only
  rw [keyed, if_pos used, kept]
  have decoded : decodeGeometry (.str (String.ofList (Base64.encode bytes))) = .ok bytes :=
    Base64.decode_encode bytes
  show (Act.check (decodeGeometry _) >>= fun bytes => callUi (.restoreGeometry bytes)).perform s = _
  rw [decoded]
  rfl

/-- Coming up registers a listener, makes calls and makes pages. -/
theorem leaves_comeForth_of {ι : Type} {part : Session → ι}
    (listeners : ∀ (s : Session) listeners,
      part { s with selection := { s.selection with listeners } } = part s)
    (called : ∀ c : UiCall, c.method ≠ .restoreGeometry → Leaves part (callUi c))
    (pages : ∀ (s : Session) pages container shown,
      part { s with selection := { s.selection with pages }, container, shown } = part s) :
    Leaves part comeForth := by
  have made (s : Session) : Leaves part ((s.type.providers s.config.flameEnabled.isTrue).mapM
      fun p => Act.check (s.makePage p) : Act Session (List Page)) :=
    leaves_iff.mpr fun x => keeps_mapM (fun p => keeps_check _) _
  have opened : Leaves part openPages :=
    leaves_get_bind fun s => (made s).bind fun _ => leaves_modify fun s => pages s _ _ _
  have heard (ui : Ui) : Leaves part (onSelection (modify fun sel =>
      { sel with listeners := sel.listeners ++ [confirmListener ui] })) :=
    fun s => listeners s _
  refine leaves_get_bind fun s => (heard s.ui).bind fun _ => ?_
  refine (called (.setConfirmEnabled false) fun same => nomatch same).bind fun _ => ?_
  exact (called (.setWindowTitle _) fun same => nomatch same).bind fun _ => opened

/-- What a geometry is kept by: the settings, the key and the user interface. -/
def keeping (s : Session) : List (Value × Value) × Value × Ui :=
  (s.settings, s.geometryKey, s.ui)

theorem isUnselected_keeping : IsUnselected keeping := fun _ _ => rfl

theorem leaves_comeForth : Leaves keeping comeForth :=
  leaves_comeForth_of (fun _ _ => rfl) (fun c _ => isUnselected_keeping.callUi c)
    fun _ _ _ _ => rfl

/-- The geometries that the window of a dialog was given, as far as they are seen. -/
def geometries (s : Session) : List (List UInt8) :=
  s.selection.journal.geometries

theorem geometries_comeForth : Leaves geometries comeForth := by
  refine leaves_comeForth_of (fun _ _ => rfl) (fun c other => ?_) fun _ _ _ _ => rfl
  refine leaves_iff.mpr fun x => keeps_callUi (keeps_modify fun s holds => ?_)
  refine (Journal.geometries_note _ s.selection.journal).trans ?_
  cases c with
  | restoreGeometry bytes => exact absurd rfl other
  | _ => exact (List.append_nil _).trans holds

/-- A call is seen, whether or not it then fails. -/
theorem geometries_restoreGeometry (bytes : List UInt8)
    (takes : s.ui.omits .restoreGeometry = false) :
    ((callUi (.restoreGeometry bytes)).perform s).2.geometries = s.geometries ++ [bytes] := by
  rw [callUi, perform_bind, perform_get]
  dsimp only
  rw [Ui.call]
  simp only [UiCall.method, takes, Bool.not_false, if_true]
  refine holds_bind (I := fun s' : Session => s'.geometries = s.geometries ++ [bytes]) ?_ fun _ =>
    keeps_get_bind fun _ => keeps_failOn _
  exact Journal.geometries_note _ s.selection.journal

/-- A dialog that comes up gives its window some bytes for its geometry, once. -/
structure Restores (t : Session) (bytes : List UInt8) : Prop where
  /-- The call is what follows on coming up, whatever becomes of it. -/
  calls : openDialog.perform t = (comeForth >>= fun _ => callUi (.restoreGeometry bytes)).perform t
  /-- A user interface that takes such calls sees this one and no other. -/
  seen : t.ui.omits .restoreGeometry = false → (comeForth.perform t).1 = .ok () →
    (openDialog.perform t).2.geometries = t.geometries ++ [bytes]

theorem restores {text : String} (keyed : t.geometryKey = .str text)
    (used : (Value.str text).isTrue = true)
    (kept : t.setting? (.str text) = some (.str (String.ofList (Base64.encode bytes)))) :
    t.Restores bytes := by
  have same := leaves_comeForth t
  have given := geometries_comeForth t
  have calls : openDialog.perform t =
      (comeForth >>= fun _ => callUi (.restoreGeometry bytes)).perform t := by
    rw [openDialog_eq, perform_bind, perform_bind]
    generalize comeForth.perform t = performed at same
    obtain ⟨result, t'⟩ := performed
    cases result with
    | error f => rfl
    | ok u =>
        have settings : t'.settings = t.settings := congrArg (·.1) same
        have key : t'.geometryKey = t.geometryKey := congrArg (·.2.1) same
        exact perform_restoreGeometry (key.trans keyed) used ((setting?_congr settings _).trans kept)
  refine ⟨calls, fun takes up => ?_⟩
  rw [calls, perform_bind]
  generalize comeForth.perform t = performed at same given up
  obtain ⟨result, t'⟩ := performed
  cases up
  have ui : t'.ui = t.ui := congrArg (·.2.2) same
  exact (geometries_restoreGeometry bytes (ui ▸ takes)).trans (congrArg (· ++ [bytes]) given)

end Session

end AddonPicker
