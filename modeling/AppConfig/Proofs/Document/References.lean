import AppConfig.Document.Reader
import AppConfig.Proofs.Document.Fields
import AppConfig.Proofs.Files.Home

/-! # References

* `Site.Finds`: a reference that leads to a file of the site.
* `IsHomeless`: the fault of a reference for which there is no home directory.
* `Looked`, `looked_requireFile`: what comes of looking for the file of a reference, in cases.
* `requireFile_result_ok`: only what is found is taken.
* `location_of_readReference`: a reference is refused at its key, or for want of a home directory,
  which is the fault of no place in the document.
-/

namespace AppConfig
set_option autoImplicit false

/-- The reference leads to a file. -/
structure Site.Finds (site : Site) (raw : String) : Prop where
  notEmpty : raw ≠ ""
  home : Path.NamesHome ⟨raw⟩ → site.home ≠ none
  present : site.isPresent (Path.resolve site.home site.base ⟨raw⟩) = true

namespace Document
open Outcome

/-- The fault of a reference into the home directory on a site that has none. -/
def IsHomeless (site : Site) (fault : Fault) : Prop :=
  site.home = none ∧ ∃ raw, Path.NamesHome ⟨raw⟩ ∧ fault = .noHome ⟨raw⟩

variable {site : Site} {o : Members} {key raw : String}

/-! ## Looking for a file -/

/-- What comes of looking for the file of a reference: it is found, or the home directory that the
reference asks for is not known, or nothing is where it leads. -/
inductive Looked (site : Site) (key raw : String) (x : Outcome Unit) : Prop
  | found (h : site.Finds raw) (hrun : x = pure ())
  | homeless (hnames : Path.NamesHome ⟨raw⟩) (hhome : site.home = none)
      (hrun : x = .fail (.noHome ⟨raw⟩))
  | missing (h : raw = "" ∨ site.isPresent (Path.resolve site.home site.base ⟨raw⟩) = false)
      (hrun : x = .fail (.referenceNotFound [.field key]
        (Path.resolve site.home site.base ⟨raw⟩)))

theorem looked_requireFile (site : Site) (key raw : String) :
    Looked site key raw (requireFile site key raw) := by
  rw [requireFile]
  cases hhome : Path.requireHome ⟨raw⟩ site.home with
  | error fault =>
    obtain ⟨hnames, hnone, rfl⟩ := Path.requireHome_eq_error.mp hhome
    exact .homeless hnames hnone rfl
  | ok u =>
    have hnames := Path.requireHome_eq_ok.mp hhome
    rw [bind_of_ok (ofExcept_result _)]
    by_cases hlost : raw.isEmpty || !site.isPresent (Path.resolve site.home site.base ⟨raw⟩)
    · have hmissing : raw = "" ∨
          site.isPresent (Path.resolve site.home site.base ⟨raw⟩) = false := by
        simpa [String.isEmpty_iff] using hlost
      exact .missing hmissing (if_pos hlost)
    · obtain ⟨hne, hpresent⟩ : raw ≠ "" ∧
          site.isPresent (Path.resolve site.home site.base ⟨raw⟩) = true := by
        simpa [String.isEmpty_iff] using hlost
      exact .found ⟨hne, hnames, hpresent⟩ (if_neg hlost)

theorem requireFile_journal (site : Site) (key raw : String) :
    (requireFile site key raw).journal = [] := by
  cases looked_requireFile site key raw with
  | found h hrun => rw [hrun]; rfl
  | homeless hnames hhome hrun => rw [hrun]; rfl
  | missing h hrun => rw [hrun]; rfl

theorem requireFile_result_ok : (requireFile site key raw).result = .ok () ↔ site.Finds raw := by
  cases looked_requireFile site key raw with
  | found h hrun => simp [hrun, h]
  | homeless hnames hhome hrun =>
    simp only [hrun, fail_result, reduceCtorEq, false_iff]
    exact fun h => h.home hnames hhome
  | missing h hrun =>
    simp only [hrun, fail_result, reduceCtorEq, false_iff]
    intro hfinds
    rcases h with hempty | hpresent
    · exact hfinds.notEmpty hempty
    · exact Bool.false_ne_true (hpresent.symm.trans hfinds.present)

theorem location_of_readReference : FaultsIn
    (fun fault => ∀ l, fault.location? = some l → l = [.field key]) (readReference site o key) := by
  have hat : ∀ fault : Fault, fault.location? = some [.field key] →
      ∀ l, fault.location? = some l → l = [.field key] := by
    intro fault hfault l hl
    exact Option.some.inj (hl.symm.trans hfault)
  refine .bind (fun fault hfault => hat fault (Fields.failsAt_optionalText fault hfault))
    fun declared _ => ?_
  cases declared with
  | none => exact .bind (.note _) fun _ _ => .pure none
  | some raw =>
    refine .bind ?_ fun _ _ => .pure (some raw)
    cases looked_requireFile site key raw with
    | found h hrun =>
      rw [hrun]
      exact .pure ()
    | homeless hnames hhome hrun =>
      rw [hrun]
      refine .fail fun l hl => ?_
      cases hl
    | missing h hrun =>
      rw [hrun]
      exact .fail (hat _ rfl)

end Document
end AppConfig
