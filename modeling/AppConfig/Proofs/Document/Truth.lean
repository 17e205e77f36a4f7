import AppConfig.Proofs.Document.Places
import AppConfig.Proofs.Files.Home
import AppConfig.Proofs.Plan.Codes
import AppConfig.Proofs.Version.Written

/-! # Faults tell the truth

What a fault says of the place that it names holds there in the document.

* `requiredKeys`: the keys that an object of a level has to have.
* `Holds`: what a fault says; `Truthful`: it holds, and the place exists.
* `Truthful.under`: what is true of a part is true of the part around, one step further off.
-/

namespace AppConfig.Document
set_option autoImplicit false

def requiredKeys : Level → List String
  | .root => ["wolfes_version", "platform", "lang", "apps"]
  | .app => ["namespace", "protocol_type", "nodes"]
  | .node => ["classname"]
  | .module => []
  | .entity .timer => ["type", "period"]
  | .entity (.endpoint kind) => [kind.channelKey, "message", "msg_type"]

/-- The lists of a node that are not supported, with what they are called in messages. -/
def unsupportedLists : List (String × String) :=
  [("action_servers", "action servers"), ("action_clients", "action clients")]

/-- What a fault says of a part of a level of the document. Faults that say nothing of the document
do not come from reading one. -/
def Holds (site : Site) (level : Level) (v : Json) : Fault → Prop
  | .missingField l => ∃ path key inner, ∃ o : Members, l = path ++ [.field key] ∧
      Reaches level path inner ∧ path.resolve v = some (.object o) ∧
      (o.get? key = none ∨ o.get? key = some .null) ∧ key ∈ requiredKeys inner
  | .wrongShape l expected => ∃ shape w, expected = Shape.describe shape ∧ l.resolve v = some w ∧
      ¬ shape.Admits w ∧ (l.fieldName ≠ none → w ≠ .null)
  | .invalidIdentifier l name => l.resolve v = some (.string name) ∧
      Identifier.isValid name = false
  | .unsupportedCode l kind n => l.resolve v = some (.int n) ∧
      ∃ codes, (kind, codes) ∈ declaredCodes ∧ n ∉ codes
  | .referenceNotFound l path => ∃ raw, l.resolve v = some (.string raw) ∧
      path = Path.resolve site.home site.base ⟨raw⟩ ∧ (raw = "" ∨ site.isPresent path = false)
  | .notSupported l feature => ∃ path key items, l = path ++ [.field key] ∧
      Reaches level path .node ∧ l.resolve v = some (.list items) ∧ items ≠ [] ∧
      (key, feature) ∈ unsupportedLists
  | .duplicateIdentifiers l _ => Reaches level l .app ∧ ∃ o, l.resolve v = some (.object o)
  | .invalidArgument detail => site.home = none ∧ ∃ (l : Location) (raw : String),
      l.resolve v = some (.string raw) ∧ Path.NamesHome ⟨raw⟩ ∧
      .invalidArgument detail = Fault.noHome ⟨raw⟩
  | .invalidVersion text => level = .root ∧
      Location.resolve [.field "wolfes_version"] v = some (.string text) ∧
      ∀ version : Version, ¬ version.IsWritten text
  | _ => False

/-- The fault names a place in the part, and what it says holds there. -/
structure Truthful (site : Site) (level : Level) (v : Json) (fault : Fault) : Prop where
  place : ∀ l, fault.location? = some l → IsPlace level v l
  holds : Holds site level v fault

variable {site : Site} {level : Level} {o : Members} {key : String}

/-! ## From a part to the whole -/

theorem fieldName_cons {s : Segment} {l : Location} (hl : l ≠ []) :
    Location.fieldName (s :: l) = l.fieldName := by
  cases l with
  | nil => exact absurd rfl hl
  | cons s' l => rw [Location.fieldName, Location.fieldName, List.getLast?_cons_cons]

theorem Step.fieldName {a b : Level} {s : Segment} (h : Step a s b) (l : Location) :
    Location.fieldName (s :: l) = l.fieldName := by
  cases l with
  | nil => cases h <;> rfl
  | cons s' l => exact fieldName_cons (by simp)

theorem Holds.under {a b : Level} {s : Segment} {v inner : Json} {fault : Fault} (hs : Step a s b)
    (hv : s.resolve v = some inner) (h : Holds site b inner fault) :
    Holds site a v (fault.under s) := by
  have hresolve : ∀ l : Location, Location.resolve (s :: l) v = l.resolve inner :=
    fun _ => resolve_cons hv
  cases fault with
  | missingField l =>
    obtain ⟨path, key, c, o, rfl, hpath, ho, hnone, hkey⟩ := h
    exact ⟨s :: path, key, c, o, rfl, .step hs hpath, (hresolve path).trans ho, hnone, hkey⟩
  | wrongShape l expected =>
    obtain ⟨shape, w, hshape, hw, hwrong, hnull⟩ := h
    refine ⟨shape, w, hshape, (hresolve l).trans hw, hwrong, ?_⟩
    rw [hs.fieldName l]
    exact hnull
  | invalidIdentifier l name => exact ⟨(hresolve l).trans h.1, h.2⟩
  | unsupportedCode l kind n => exact ⟨(hresolve l).trans h.1, h.2⟩
  | referenceNotFound l path =>
    obtain ⟨raw, hraw, hpath, hmissing⟩ := h
    exact ⟨raw, (hresolve l).trans hraw, hpath, hmissing⟩
  | notSupported l feature =>
    obtain ⟨path, key, items, rfl, hpath, hitems, hne, hkey⟩ := h
    exact ⟨s :: path, key, items, rfl, .step hs hpath, (hresolve _).trans hitems, hne, hkey⟩
  | duplicateIdentifiers l names =>
    obtain ⟨hpath, o, ho⟩ := h
    exact ⟨.step hs hpath, o, (hresolve l).trans ho⟩
  | invalidArgument detail =>
    obtain ⟨hhome, l, raw, hraw, hdetail⟩ := h
    exact ⟨hhome, s :: l, raw, (hresolve l).trans hraw, hdetail⟩
  | invalidVersion text =>
    obtain ⟨rfl, -⟩ := h
    cases hs
  | _ => exact h.elim

theorem Truthful.under {a b : Level} {s : Segment} {v inner : Json} {fault : Fault}
    (hs : Step a s b) (hv : s.resolve v = some inner) (h : Truthful site b inner fault) :
    Truthful site a v (fault.under s) := by
  refine ⟨fun l hl => ?_, h.holds.under hs hv⟩
  rw [Fault.under, Fault.location?_relocate, Option.map_eq_some_iff] at hl
  obtain ⟨l, hl, rfl⟩ := hl
  exact (h.place l hl).under hs hv

/-- A fault about a field of the object that is read. -/
theorem Holds.truthful {fault : Fault} (hl : fault.location? = some [.field key])
    (h : Holds site level (.object o) fault) : Truthful site level (.object o) fault := by
  refine ⟨fun l hl' => ?_, h⟩
  obtain rfl : [Segment.field key] = l := Option.some.inj (hl.symm.trans hl')
  exact .field level o key

end AppConfig.Document
