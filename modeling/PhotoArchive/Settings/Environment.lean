import PhotoArchive.Settings

/-!
# Settings from an environment

An environment gives values to names, all of them texts. The settings are read from it group by
group; the first group with something wrong is the one that is reported.

## Main definitions

- `Environment` — the values of names
- `Environment.value?`, `Environment.define` — look a name up and give it another value
- `Settings.ofEnvironment` — the settings in an environment

## Main statements

- `Environment.value?_define` — a name has the value that it was given last
-/

namespace PhotoArchive

/-- The values of names. -/
abbrev Environment := List (String × String)

namespace Environment

/-- The value of a name. -/
def value? (env : Environment) (name : String) : Option String :=
  (env.find? fun v => v.1 = name).map Prod.snd

/-- Give a name a value in the place of the one that it has. -/
def define (env : Environment) (name value : String) : Environment :=
  (name, value) :: env.filter (·.1 ≠ name)

/-- A name has the value that it was given last. -/
theorem value?_define (env : Environment) (name other value : String) :
    (env.define name value).value? other = if name = other then some value else env.value? other := by
  unfold value? define
  by_cases h : name = other
  · simp [h]
  · have : ∀ l : Environment,
        (l.filter (·.1 ≠ name)).find? (fun v => v.1 = other) = l.find? fun v => v.1 = other := by
      intro l
      induction l with
      | nil => rfl
      | cons v rest ih =>
        by_cases hv : v.1 = name
        · have : ¬v.1 = other := fun ho => h (hv.symm.trans ho)
          simp_all
        · simp only [List.filter_cons, hv, ne_eq, not_false_eq_true, decide_true, if_true,
            List.find?_cons]
          split
          · rfl
          · simpa using ih
    simp only [List.find?_cons, h, decide_false, if_false]
    rw [this]

/-- The environment as a group of settings. -/
def fields (env : Environment) : SettingFields := env.map fun v => (v.1, .text v.2)

end Environment

/-- The settings in an environment. Those of the bucket are only looked for when the photos are in a
bucket. -/
def Settings.ofEnvironment (env : Environment) : Except ValidationError Settings := do
  let fields := env.fields
  let storage ← StorageSettings.validate fields
  let bucket ← match storage.backend with
    | .directory => pure none
    | .bucket => some <$> BucketSettings.validate fields
  let database ← DatabaseSettings.validate fields
  let archive ← ArchiveSettings.validate fields
  return { database, storage, archive, bucket }

end PhotoArchive
