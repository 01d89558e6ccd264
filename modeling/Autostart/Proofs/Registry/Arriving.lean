import Autostart.Proofs.FileStore.Clear
import Autostart.Proofs.Registry.DueSaves
import Autostart.Proofs.Registry.Failures

/-!
# New launchers beside others

A launcher that is made or brought in gets a free name, so no other launcher has to give way. Making
one leaves the files alone. Bringing one in copies a file to the place of the name, where none
stands as long as the registry can see the files of the user.
-/

namespace Autostart.Registry

variable {r : Registry}

/-- Every launcher is still known, with all that is recorded of it. -/
def KeepsLaunchers (r r' : Registry) : Prop :=
  ∀ key e, r.find? key = some e → r'.find? key = some e

/-! ## Launchers that are made -/

/-- Making a launcher keeps all others, and touches no file. -/
theorem keepsLaunchers_create (r : Registry) (request : Request) :
    r.KeepsLaunchers (r.create request).2 ∧ (r.create request).2.files = r.files := by
  rcases hresult : r.create request with ⟨outcome, r'⟩
  cases create_step hresult with
  | refused => exact ⟨fun _ _ h => h, rfl⟩
  | made name isFileName free =>
    refine ⟨fun key e hfind => ?_, rfl⟩
    have hne : key ≠ name := by
      rintro rfl
      rw [find?_of_isTaken free] at hfind
      cases hfind
    rw [find?_tell, find?_set, if_neg hne, hfind]

/-! ## Launchers that are brought in -/

/-- Bringing in a launcher keeps all others. -/
theorem keepsLaunchers_copyFrom (r : Registry) (text : String) :
    r.KeepsLaunchers (r.copyFrom text).2 := by
  intro key e hfind
  have hne : ∀ name, r.isTaken name = false → key ≠ name := by
    rintro name hfree rfl
    rw [find?_of_isTaken hfree] at hfind
    cases hfind
  rcases hresult : r.copyFrom text with ⟨outcome, r'⟩
  cases copyFrom_step hresult with
  | refused => exact hfind
  | failed => exact hfind
  | loaded name files loaded e' isFileName free brought load =>
    have hfileName : (r.searchPath.userPath name).fileName? = some name :=
      Path.fileName?_join _ isFileName
    have hstep := loadEntry_step { r with files } (r.searchPath.userPath name) name
      SearchPath.userRank
    rw [← load_snd hfileName, load] at hstep
    have hloaded : loaded.find? key = some e := (hstep.find?_of_ne (hne name free)).trans hfind
    rcases switchOn_cases loaded name e' with heq | heq
    · rw [heq, hloaded]
    · rw [heq, commit, find?_tell, find?_set, if_neg (hne name free), hloaded]
  | useless error name files loaded isFileName free brought load =>
    have hnone : ({ r with files } : Registry).find? name = none := find?_of_isTaken (r := r) free
    obtain rfl := load_of_free (Path.fileName?_join _ isFileName) hnone load
    exact hfind

/-- Bringing in a launcher touches the place of a free name only. -/
theorem touches_copyFrom (r : Registry) (text : String) :
    r.files.Touches (r.copyFrom text).2.files r.searchPath.userDirectory fun l =>
      ∃ name, Path.IsFileName name ∧ r.isTaken name = false ∧
        l = r.files.locationOf (r.searchPath.userPath name) := by
  rcases hresult : r.copyFrom text with ⟨outcome, r'⟩
  cases copyFrom_step hresult with
  | refused => exact .refl _ _ _
  | failed error name files isFileName free brought =>
    exact (touches_of_bring brought).mono fun l hl => ⟨name, isFileName, free, hl⟩
  | loaded name files loaded e isFileName free brought load =>
    have hfiles := files_load { r with files } (r.searchPath.userPath name) SearchPath.userRank
    rw [load] at hfiles
    rw [files_switchOn, hfiles]
    exact (touches_of_bring brought).mono fun l hl => ⟨name, isFileName, free, hl⟩
  | useless error name files loaded isFileName free brought load =>
    have hfiles := files_load { r with files } (r.searchPath.userPath name) SearchPath.userRank
    rw [load] at hfiles
    obtain rfl : loaded.files = files := hfiles
    exact (touches_cleanedUp_of_bring brought).mono fun l hl => ⟨name, isFileName, free, hl⟩

/-- Bringing in a launcher keeps every file, whether it succeeds or not. -/
theorem keepsFiles_copyFrom (hsees : r.SeesUserFiles) (text : String) :
    r.files.KeepsFiles (r.copyFrom text).2.files := by
  rcases hresult : r.copyFrom text with ⟨outcome, r'⟩
  cases outcome with
  | error error =>
    obtain ⟨files, rfl, htouches⟩ := copyFrom_of_error hresult hsees
    exact htouches.keepsFiles fun _ => False.elim
  | ok name =>
    cases copyFrom_step hresult with
    | loaded name files loaded e isFileName free brought load =>
      have hfiles := files_load { r with files } (r.searchPath.userPath name) SearchPath.userRank
      rw [load] at hfiles
      rw [files_switchOn, hfiles]
      refine (touches_of_bring brought).keepsFiles ?_
      rintro l rfl c hc
      -- A file at the place of the copy would be seen, and its name would not be free.
      have hplace := r.files.locationOf_join r.searchPath.userDirectory isFileName
      have hdir := hsees name c (hplace ▸ hc)
      exact node?_of_bring brought hdir (Bool.or_eq_false_iff.1 free).2 c hc

end Autostart.Registry
