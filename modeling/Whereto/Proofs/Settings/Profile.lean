import Whereto.Proofs.Settings.EnvFile
import Whereto.Proofs.Text.Blank
import Whereto.Settings.Basic

/-!
What the public profile tells about secrets. The key of the places service and the position of the
device may be set to anything: as long as they are there, the profile is the same, also when a file
adds variables to the environment.
-/

namespace Whereto.Settings

variable {e f : Environment} {file : Option String} {name : String} {as : List (String × String)}

/-- The variables that hold the key of the places service and the position of the device. -/
def secretNames : List String := ["GOOGLE_PLACES_API_KEY", "DEVICE_LATITUDE", "DEVICE_LONGITUDE"]

/-- An environment with a key that is not blank and a position in finite numbers. -/
structure HoldsSecrets (env : Environment) : Prop where
  key : (filled? env "GOOGLE_PLACES_API_KEY").isSome
  latitude : (degrees? env "DEVICE_LATITUDE").isSome
  longitude : (degrees? env "DEVICE_LONGITUDE").isSome

/-- Settings with the key and the position that an environment holds. -/
structure Carries (s : Settings) (env : Environment) : Prop where
  key : ∃ key, env.get? "GOOGLE_PLACES_API_KEY" = some key ∧ s.placesKey = some key
  position : ∃ latitude longitude, degrees? env "DEVICE_LATITUDE" = some latitude ∧
    degrees? env "DEVICE_LONGITUDE" = some longitude ∧
    s.devicePosition = some ⟨latitude, longitude⟩

/-! ### Settings and environments -/

lemma carries_ofEnvironment (h : HoldsSecrets e) : (ofEnvironment e).Carries e := by
  obtain ⟨key, hkey⟩ := Option.isSome_iff_exists.mp h.key
  obtain ⟨latitude, hlatitude⟩ := Option.isSome_iff_exists.mp h.latitude
  obtain ⟨longitude, hlongitude⟩ := Option.isSome_iff_exists.mp h.longitude
  refine ⟨⟨key, (Text.mem_nonBlank?.mp hkey).1, hkey⟩,
    latitude, longitude, hlatitude, hlongitude, ?_⟩
  simp [ofEnvironment, devicePosition?, hlatitude, hlongitude]

/-- The profile shows what is public, and whether the secrets are there. -/
lemma profile_ofEnvironment_eq (hpublic : ∀ name, name ∉ secretNames → e.get? name = f.get? name)
    (he : HoldsSecrets e) (hf : HoldsSecrets f) :
    (ofEnvironment e).profile = (ofEnvironment f).profile := by
  obtain ⟨_, _, hekey⟩ := (carries_ofEnvironment he).key
  obtain ⟨_, _, hfkey⟩ := (carries_ofEnvironment hf).key
  obtain ⟨_, _, _, _, heposition⟩ := (carries_ofEnvironment he).position
  obtain ⟨_, _, _, _, hfposition⟩ := (carries_ofEnvironment hf).position
  simp only [profile, hekey, hfkey, heposition, hfposition, Option.isSome_some]
  simp [ofEnvironment, filled?, natural, flag, dirFor, secretNames, hpublic]

/-! ### Files -/

/-- A file makes the same assignments in every environment. -/
lemma read_eq (hfile : ∀ text ∈ file, '$' ∉ text.toList) :
    ∃ as, ∀ env, read env file = ofEnvironment (env.assign as) := by
  cases file with
  | none => exact ⟨[], fun env => rfl⟩
  | some text =>
    obtain ⟨as, has⟩ := EnvFile.load_eq_assign (hfile text rfl)
    exact ⟨as, fun env => congrArg ofEnvironment (has env)⟩

/-- What holds secrets goes on holding them: a file does not replace what is set. -/
lemma HoldsSecrets.get?_assign (h : HoldsSecrets e) (hname : name ∈ secretNames) :
    (e.assign as).get? name = e.get? name := by
  refine Environment.get?_assign_of_isSome ?_
  rcases List.mem_cons.mp hname with rfl | hname
  · exact Option.isSome_of_isSome_filter _ _ h.key
  rcases List.mem_cons.mp hname with rfl | hname
  · exact Option.isSome_of_isSome_bind (Option.isSome_of_isSome_filter _ _ h.latitude)
  · rw [List.mem_singleton.mp hname]
    exact Option.isSome_of_isSome_bind (Option.isSome_of_isSome_filter _ _ h.longitude)

lemma HoldsSecrets.congr (h : HoldsSecrets e)
    (hsecret : ∀ name ∈ secretNames, f.get? name = e.get? name) : HoldsSecrets f where
  key := by
    rw [filled?, hsecret _ (by decide)]
    exact h.key
  latitude := by
    rw [degrees?, hsecret _ (by decide)]
    exact h.latitude
  longitude := by
    rw [degrees?, hsecret _ (by decide)]
    exact h.longitude

lemma Carries.congr {s : Settings} (h : s.Carries f)
    (hsecret : ∀ name ∈ secretNames, f.get? name = e.get? name) : s.Carries e where
  key := by
    rw [← hsecret _ (by decide)]
    exact h.key
  position := by
    rw [degrees?, degrees?, ← hsecret "DEVICE_LATITUDE" (by decide),
      ← hsecret "DEVICE_LONGITUDE" (by decide)]
    exact h.position

/-- **The public profile** does not depend on secrets. In two environments that differ in nothing
but the key and the position, it is the same, although the settings have the key and the position of
their own environment; a file without dollar signs does not change this. -/
theorem profile_eq_of_secrets (hfile : ∀ text ∈ file, '$' ∉ text.toList)
    (he : HoldsSecrets e) (hf : HoldsSecrets f)
    (hpublic : ∀ name, name ∉ secretNames → e.get? name = f.get? name) :
    (read e file).profile = (read f file).profile ∧
      (read e file).Carries e ∧ (read f file).Carries f := by
  obtain ⟨as, has⟩ := read_eq hfile
  have hassigned {env : Environment} (h : HoldsSecrets env) : HoldsSecrets (env.assign as) :=
    h.congr fun _ hname => h.get?_assign hname
  have hcarries {env : Environment} (h : HoldsSecrets env) :
      (ofEnvironment (env.assign as)).Carries env :=
    (carries_ofEnvironment (hassigned h)).congr fun _ hname => h.get?_assign hname
  rw [has, has]
  refine ⟨profile_ofEnvironment_eq (fun name hname => ?_) (hassigned he) (hassigned hf),
    hcarries he, hcarries hf⟩
  rw [Environment.get?_assign, Environment.get?_assign, hpublic name hname]

/-- An environment with secrets, and where the service is. -/
def secretEnvironment (key latitude longitude : String) : Environment :=
  [("API_BASE_URL", "http://planner.test/v1"), ("GOOGLE_PLACES_API_KEY", key),
    ("DEVICE_LATITUDE", latitude), ("DEVICE_LONGITUDE", longitude)]

/-- The file sets the waiting time in both environments, and it moves neither of the devices. -/
theorem profile_of_two_keys :
    let file := some "SUGGESTION_DEBOUNCE_MS=120\nDEVICE_LATITUDE=1.5\n"
    let office := secretEnvironment "first" "37.42" "-122.08"
    let home := secretEnvironment "second" " 48.1 " "11.5"
    (office.get? "GOOGLE_PLACES_API_KEY" ≠ home.get? "GOOGLE_PLACES_API_KEY" ∧
      degrees? office "DEVICE_LATITUDE" ≠ degrees? home "DEVICE_LATITUDE") ∧
    (read office file).profile = (read home file).profile ∧
      (read office file).Carries office ∧ (read home file).Carries home := by
  intro file office home
  refine ⟨by decide +kernel, profile_eq_of_secrets ?_ ?_ ?_ ?_⟩
  · intro text htext
    obtain rfl := Option.some.inj htext
    decide
  · exact ⟨by decide, by decide +kernel, by decide +kernel⟩
  · exact ⟨by decide, by decide +kernel, by decide +kernel⟩
  · intro name hname
    simp only [secretNames, List.mem_cons, List.not_mem_nil, or_false, not_or] at hname
    obtain ⟨hkey, hlatitude, hlongitude⟩ := hname
    simp [office, home, secretEnvironment, Environment.get?, List.lookup_cons,
      beq_false_of_ne hkey, beq_false_of_ne hlatitude, beq_false_of_ne hlongitude]

end Whereto.Settings
