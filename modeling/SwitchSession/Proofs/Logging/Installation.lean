import SwitchSession.External.Filter

namespace SwitchSession

/-- What the log library promises: a level, by its name, is a filter. -/
structure LogLibrary.Documented (library : LogLibrary φ) : Prop where
  levels : ∀ name ∈ ["trace", "debug", "info", "warn", "error"],
    ∃ filter, library.readFilter name = .ok filter

namespace Subscriber

variable {library : LogLibrary φ} {settings : LogSettings} {calls : List LogSettings}

/-- The subscriber that the settings ask for, if their filter can be read. -/
def ofSettings? (library : LogLibrary φ) (settings : LogSettings) : Option (Subscriber φ) :=
  match library.readFilter settings.filter with
  | .error _ => none
  | .ok filter => some { filter, json := settings.json }

/-- The subscriber that is in place after some calls. -/
def afterAll (library : LogLibrary φ) (calls : List LogSettings)
    (installed : Option (Subscriber φ)) : Option (Subscriber φ) :=
  calls.foldl (fun installed settings => (install library installed settings).2) installed

/-- What one call can do. A subscriber that is in place stays there. -/
theorem install_cases (library : LogLibrary φ) (installed : Option (Subscriber φ))
    (settings : LogSettings) :
    (∃ detail, library.readFilter settings.filter = .error detail ∧
      ofSettings? library settings = none ∧
      install library installed settings = (.error (.filter detail), installed)) ∨
    (∃ filter asked, library.readFilter settings.filter = .ok filter ∧
      ofSettings? library settings = some asked ∧
      (installed = none ∧ install library installed settings = (.ok (), some asked) ∨
        ∃ other, installed = some other ∧ install library installed settings =
          (.error (.subscriber library.taken), some other))) := by
  cases h : library.readFilter settings.filter with
  | error detail => exact .inl ⟨detail, rfl, by simp [ofSettings?, h], by simp [install, h]⟩
  | ok filter =>
    refine .inr ⟨filter, _, rfl, by simp [ofSettings?, h]; rfl, ?_⟩
    cases installed with
    | none => exact .inl ⟨rfl, by simp [install, h]⟩
    | some other => exact .inr ⟨other, rfl, by simp [install, h]⟩

theorem snd_install (library : LogLibrary φ) (installed : Option (Subscriber φ))
    (settings : LogSettings) :
    (install library installed settings).2 = (installed <|> ofSettings? library settings) := by
  rcases install_cases library installed settings with
    ⟨detail, -, ha, hi⟩ | ⟨filter, asked, -, ha, ⟨rfl, hi⟩ | ⟨other, rfl, hi⟩⟩
  · rw [hi, ha]
    cases installed <;> rfl
  · rw [hi, ha]
    rfl
  · rw [hi]
    rfl

/-- The first settings whose filter can be read decide, and no later ones change it. -/
theorem afterAll_eq (library : LogLibrary φ) (calls : List LogSettings)
    (installed : Option (Subscriber φ)) :
    afterAll library calls installed =
      (installed <|> calls.findSome? (ofSettings? library)) := by
  induction calls generalizing installed with
  | nil => cases installed <;> rfl
  | cons settings calls ih =>
    rw [afterAll, List.foldl_cons, ← afterAll, ih, snd_install, List.findSome?_cons]
    cases installed with
    | some other => rfl
    | none => cases ofSettings? library settings <;> rfl

theorem getElem?_installAll (library : LogLibrary φ) (calls : List LogSettings)
    (installed : Option (Subscriber φ)) (i : Nat) :
    (installAll library calls installed)[i]? = calls[i]?.map fun settings =>
      (install library (afterAll library (calls.take i) installed) settings).1 := by
  induction calls generalizing installed i with
  | nil => rfl
  | cons settings calls ih =>
    cases i with
    | zero => rfl
    | succ i => exact ih _ i

/-- Of any calls, each is refused for its filter if the filter cannot be read. Of the others the
first one installs its subscriber, which stays, and all later ones are refused for it. -/
theorem first_call_installs (library : LogLibrary φ) (calls : List LogSettings) (i : Nat)
    (h : calls[i]? = some settings) :
    let result := (installAll library calls none)[i]?
    (∀ detail, result = some (.error (.filter detail)) ↔
      library.readFilter settings.filter = .error detail) ∧
    (result = some (.ok ()) ↔ (ofSettings? library settings).isSome ∧
      ∀ earlier ∈ calls.take i, ofSettings? library earlier = none) ∧
    (∀ detail, result = some (.error (.subscriber detail)) ↔ detail = library.taken ∧
      (ofSettings? library settings).isSome ∧
      ∃ earlier ∈ calls.take i, (ofSettings? library earlier).isSome) ∧
    afterAll library calls none = calls.findSome? (ofSettings? library) := by
  intro result
  let found := (calls.take i).findSome? (ofSettings? library)
  have hresult : result = some (install library found settings).1 := by
    show (installAll library calls none)[i]? = _
    rw [getElem?_installAll, h, afterAll_eq]
    rfl
  have hnone : found = none ↔ ∀ earlier ∈ calls.take i, ofSettings? library earlier = none :=
    List.findSome?_eq_none_iff
  have hsome : found.isSome ↔ ∃ earlier ∈ calls.take i, (ofSettings? library earlier).isSome :=
    List.findSome?_isSome_iff
  rw [hresult, ← hnone, ← hsome]
  have hafter := afterAll_eq library calls none
  rcases install_cases library found settings with
    ⟨detail, hr, ha, hi⟩ | ⟨filter, asked, hr, ha, ⟨hf, hi⟩ | ⟨other, hf, hi⟩⟩
  · rw [hi]
    exact ⟨fun d => by simp [hr], by simp [ha], fun d => by simp [ha], hafter⟩
  · rw [hi, hf]
    exact ⟨fun d => by simp [hr], by simp [ha], fun d => by simp, hafter⟩
  · rw [hi, hf]
    exact ⟨fun d => by simp [hr], by simp, fun d => by simp [ha, eq_comm], hafter⟩

/-- Without any variable set the log can be installed. -/
theorem install_of_nothing_set (hl : library.Documented) :
    ∃ subscriber,
      install library none (.ofEnvironment fun _ => none) = (.ok (), some subscriber) := by
  obtain ⟨filter, hf⟩ := hl.levels "info" (by decide)
  refine ⟨{ filter, json := false }, ?_⟩
  simp [install, LogSettings.ofEnvironment, hf]

end Subscriber

namespace External

theorem documented_logLibrary (invalid taken : String) : (logLibrary invalid taken).Documented where
  levels name h := by
    have hread : ∀ name ∈ ["trace", "debug", "info", "warn", "error"],
        (Filter.parse? name).isSome := by decide
    obtain ⟨directives, hd⟩ := Option.isSome_iff_exists.1 (hread name h)
    exact ⟨directives, by simp [logLibrary, hd]⟩

end External

end SwitchSession
